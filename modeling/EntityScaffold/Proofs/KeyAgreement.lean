import EntityScaffold.Proofs.BaseMembers
import EntityScaffold.Proofs.HierarchyKeys
import EntityScaffold.Proofs.PrintedText

/-!
# Agreement on keys

The key of an entity comes into the generated code on two ways. Its own classes get it from the
entities that it is nested in; finders of any entity look it up in the hierarchy, by the class name
of their target. Both ways lead to the same key (`generated_keys_agree`): a finder binds a parameter
of the type that the constructor of its target takes, and asks for the property that this
constructor sets.
-/

namespace EntityScaffold

namespace Java

/-- The constructor that a member is, if it is one. -/
def Member.constructor? : Member → Option Method
  | .field _ => none
  | .method m => if m.result?.isNone then some m else none

/-- The constructors of a class. -/
def ClassDeclaration.constructors (c : ClassDeclaration) : List Method :=
  c.members.filterMap Member.constructor?

theorem ClassDeclaration.constructors_eq (c : ClassDeclaration) :
    c.constructors = c.methods.filter (·.result?.isNone) := by
  unfold constructors methods
  rw [List.filter_filterMap]
  congr 1
  funext member
  cases member with
  | field f => rfl
  | method m =>
    unfold Member.constructor? Member.method?
    cases hresult : m.result?.isNone <;> simp [Option.filter, hresult]

theorem Method.render_of_not_isCompact {m : Method} (h : m.isCompact = false) :
    m.render = String.join (m.annotation?.toList.map fun a => "\t" ++ a.render ++ "\n") ++ "\t" ++
      renderWords (m.modifiers ++ m.result?.toList.map (·.render)) ++ m.name ++ "(" ++
      String.intercalate ", " (m.parameters.map fun p => p.type.render ++ " " ++ p.name) ++
      ") \x7b\n" ++ String.join (m.body.map fun s => "\t\t" ++ s.render ++ "\n") ++ "\t\x7d\n" := by
  unfold Method.render Method.renderBody
  rw [h, ← String.toList_inj]
  simp

end Java

namespace Scaffold

open Java Text
open Mapping (Entity ManyToOne Mapped Placed Resource SetMember)

/-! ## The constructors of a base class -/

theorem isSome_result?_of_mem_accessorGroups {s : Scaffold} {m : Method}
    (h : m ∈ s.accessorGroups.flatten) : m.result?.isSome := by
  rcases cases_of_mem_accessorGroups h with ⟨f, start, -, rfl⟩ | ⟨f, rfl⟩ | ⟨set, rfl⟩ <;> rfl

theorem isSome_result?_of_mem_identityMethods {s : Scaffold} {m : Method}
    (h : m ∈ s.identityMethods) : m.result?.isSome := by
  rcases cases_of_mem_identityMethods h with ⟨body, rfl⟩ | ⟨body, rfl⟩ | ⟨text, rfl⟩ <;> rfl

/-- A base class has the constructor without parameters, and one for the key if there is a key. -/
theorem constructors_baseClass (s : Scaffold) :
    s.baseClass.constructors = s.emptyConstructor :: s.key?.toList.map s.keyConstructor := by
  have hnone {ms : List Method} (h : ∀ m ∈ ms, m.result?.isSome) :
      ms.filter (·.result?.isNone) = [] := by
    rw [List.filter_eq_nil_iff]
    intro m hm
    simp [Option.isSome_iff_ne_none.mp (h m hm)]
  have hkey : (s.emptyConstructor :: s.key?.toList.map s.keyConstructor).filter
      (·.result?.isNone) = s.emptyConstructor :: s.key?.toList.map s.keyConstructor := by
    cases s.key? <;> rfl
  have haccessors : (initializer :: s.accessorGroups.flatten).filter (·.result?.isNone) = [] := by
    apply hnone
    intro m hm
    rcases List.mem_cons.mp hm with rfl | hm
    · rfl
    · exact isSome_result?_of_mem_accessorGroups hm
  have hidentity : s.identityMethods.filter (·.result?.isNone) = [] :=
    hnone fun m hm => isSome_result?_of_mem_identityMethods hm
  have hdebug : [s.debugMethod].filter (·.result?.isNone) = [] := rfl
  rw [ClassDeclaration.constructors_eq, methods_baseClass, List.filter_append, List.filter_append,
    List.filter_append, hkey, haccessors, hidentity, hdebug, List.append_nil, List.append_nil,
    List.append_nil]

/-! ## The texts that mention a key -/

/-- The constructor of a base class without parameters. -/
def emptyConstructorText (className : String) : String :=
  "\tpublic Base" ++ className ++ "() \x7b\n\t\tinitialize();\n\t\x7d\n"

/-- The constructor of a base class that sets the key. -/
def keyConstructorText (className typeName keyName : String) : String :=
  "\tpublic Base" ++ className ++ "(" ++ typeName ++ " " ++ parameterName keyName ++
    ") \x7b\n\t\tset" ++ keyName ++ "(" ++ parameterName keyName ++
    ");\n\t\tinitialize();\n\t\x7d\n"

/-- The first line of the base class of an access object, for keys of the given type. -/
def accessHeadText (className typeName : String) : String :=
  "public abstract class Base" ++ className ++ "DAO extends _RootDAO<" ++ className ++ "," ++
    typeName ++ "> \x7b\n"

/-- The finder for an association, where a key of the target has the given type and name. -/
def finderText (className associationName typeName keyName : String) : String :=
  let parameter := parameterName associationName ++ "Id"
  "\t@SuppressWarnings(\"unchecked\")\n\tpublic List<" ++ className ++ "> findBy" ++
    associationName ++ "(org.hibernate.Session hibSession, " ++ typeName ++ " " ++ parameter ++
    ") \x7b\n\t\treturn hibSession.createQuery(\"from " ++ className ++ " x where x." ++
    decapitalize associationName ++ "." ++ decapitalize keyName ++ " = :" ++ parameter ++
    "\").set" ++ typeName ++ "(\"" ++ parameter ++ "\", " ++ parameter ++
    ").list();\n\t\x7d\n"

theorem render_emptyConstructor (s : Scaffold) :
    s.emptyConstructor.render = emptyConstructorText s.className := by
  unfold emptyConstructor emptyConstructorText
  generalize s.className = c
  rw [Method.render_of_not_isCompact rfl]
  simp only [Option.toList, List.map_nil, List.map_cons, renderWords, Statement.render,
    Expr.render, renderAll, initializeCall, ArtifactKind.className]
  rw [← String.toList_inj]
  simp

theorem render_keyConstructor (s : Scaffold) (key : KeyRef) :
    (s.keyConstructor key).render =
      keyConstructorText s.className key.type.simple key.name := by
  unfold keyConstructor keyConstructorText
  generalize s.className = c
  generalize parameterName key.name = p
  rw [Method.render_of_not_isCompact rfl]
  simp only [Option.toList, List.map_nil, List.map_cons, renderWords, TypeUse.of,
    TypeUse.render, Statement.render, Expr.render, renderAll, initializeCall, setterName,
    ArtifactKind.className]
  generalize key.type.simple = t
  rw [← String.toList_inj]
  simp

theorem renderHead_accessBaseClass (s : Scaffold) :
    s.accessBaseClass.renderHead = accessHeadText s.className s.keyType.simple := by
  have hroot : s.rootAccessType.simple = "_RootDAO" := simple_qualify (by decide)
  have hself := s.simple_type_concrete
  unfold accessBaseClass accessHeadText ClassDeclaration.renderHead
  generalize s.keyType = t
  generalize s.rootAccessType = r at *
  generalize s.type .concrete = u at *
  generalize s.className = c at *
  simp only [Option.toList, List.map_nil, List.map_cons, TypeUse.render, hroot, hself]
  generalize t.simple = n
  simp only [renderWords, List.map_nil, List.map_cons, if_true, String.join_nil,
    String.join_cons, String.intercalate_singleton, String.intercalate_cons_cons,
    ArtifactKind.className]
  rw [← String.toList_inj]
  simp

set_option maxRecDepth 1200 in
theorem render_finderFor (s : Scaffold) (association : ManyToOne) (key : KeyRef) :
    (s.finderFor association key).render =
      finderText s.className association.name key.type.simple key.name := by
  have hlist : listType.simple = "List" := by decide
  have hannotation : (⟨⟨"SuppressWarnings"⟩, "\"unchecked\""⟩ : Annotation).render =
      "@SuppressWarnings(\"unchecked\")" := by decide
  have hself := s.simple_type_concrete
  unfold finderFor finderText
  rw [Method.render_of_not_isCompact rfl]
  generalize s.type .concrete = u at *
  generalize listType = l at *
  simp only [finderQuery, finderParameter, TypeName.setter]
  generalize s.className = c at *
  generalize parameterName association.name = p
  generalize decapitalize association.name = d
  generalize decapitalize key.name = k
  simp only [Option.toList, List.map_nil, List.map_cons, TypeUse.of, TypeUse.render,
    Statement.render, Expr.render, Expr.asReceiver, renderAll, hlist, hannotation, hself]
  generalize key.type.simple = t
  generalize association.name = a
  simp only [renderWords, List.map_nil, List.map_cons, List.cons_append, List.nil_append,
    String.join_nil, String.join_cons, String.intercalate_nil, String.intercalate_singleton,
    String.intercalate_cons_cons]
  rw [← String.toList_inj]
  simp

theorem occurs_finder (s : Scaffold) (header? : Option String) {association : ManyToOne}
    (h : association ∈ s.entity.columnManyToOnes) :
    Occurs (s.finder association).render (s.artifact header? .accessBase).contents := by
  have hmember : Member.method (s.finder association) ∈ s.accessBaseClass.members := by
    refine List.mem_flatten.mpr ⟨[.method (s.finder association)], ?_, List.mem_singleton_self _⟩
    refine List.mem_append_right _ (List.mem_map.mpr ⟨s.finder association, ?_, rfl⟩)
    exact List.mem_map_of_mem h
  exact (occurs_member hmember).trans (s.occurs_artifact header? .accessBase)

theorem occurs_constructor (s : Scaffold) (header? : Option String) {m : Method}
    (h : m ∈ s.baseClass.constructors) :
    Occurs m.render (s.artifact header? .base).contents := by
  rw [ClassDeclaration.constructors_eq] at h
  have hmember := ClassDeclaration.mem_methods_iff.mp (List.mem_filter.mp h).1
  exact (occurs_member hmember).trans (s.occurs_artifact header? .base)

/-! ## Agreement -/

/-- What the two base classes of an entity show of its key. -/
structure ShowsKey (s : Scaffold) (header? : Option String) (constructors : List String)
    (keyType : String) : Prop where
  constructors_eq : s.baseClass.constructors.map (·.render) = constructors
  occurs_constructors :
    ∀ text ∈ constructors, Occurs text (s.artifact header? .base).contents
  head_eq : s.accessBaseClass.renderHead = accessHeadText s.className keyType
  occurs_head :
    Occurs (accessHeadText s.className keyType) (s.artifact header? .accessBase).contents

/-- Every finder for a class of the given name, in the classes of whatever entity, binds a parameter
of the given type and asks for the given property. -/
def FindersBind (h : Hierarchy) (target keyType keyName : String) : Prop :=
  ∀ (q : Placed) (shown : NameSet), ∀ association ∈ q.entity.columnManyToOnes,
    association.target.simple = target → ∀ header? : Option String,
      let s := ofPlaced h shown q
      (s.finder association).render =
          finderText s.className association.name keyType keyName ∧
        Occurs (finderText s.className association.name keyType keyName)
          (s.artifact header? .accessBase).contents

theorem showsKey (s : Scaffold) (header? : Option String) :
    s.ShowsKey header? ((s.emptyConstructor :: s.key?.toList.map s.keyConstructor).map (·.render))
      s.keyType.simple where
  constructors_eq := by rw [constructors_baseClass]
  occurs_constructors := by
    intro text h
    obtain ⟨m, hm, rfl⟩ := List.mem_map.mp h
    rw [← constructors_baseClass] at hm
    exact s.occurs_constructor header? hm
  head_eq := s.renderHead_accessBaseClass
  occurs_head := by
    rw [← s.renderHead_accessBaseClass]
    exact (Java.occurs_head _).trans (s.occurs_artifact header? .accessBase)

theorem findersBind (h : Hierarchy) (target : String) :
    FindersBind h target (h.finderKey target).type.simple (h.finderKey target).name := by
  intro q shown association hassociation htarget header? s
  have htext : (s.finder association).render = finderText s.className association.name
      (h.finderKey target).type.simple (h.finderKey target).name := by
    rw [← htarget]
    exact s.render_finderFor association _
  refine ⟨htext, ?_⟩
  rw [← htext]
  exact s.occurs_finder header? hassociation

/-- The classes of a mapped entity and the finders for it agree on its key: the one of the nearest
entity on its nesting path that has one, wherever the entities are mapped. -/
theorem generated_keys_agree {rs : List Resource} {h : Hierarchy}
    (hrs : Hierarchy.ofResources rs = .ok h) {p : Placed} (hp : Mapped rs p) (shown : NameSet)
    (header? : Option String) :
    let s := ofPlaced h shown p
    match p.key? with
    | some key =>
      s.ShowsKey header?
          [emptyConstructorText s.className,
            keyConstructorText s.className key.type.simple key.name]
          key.type.simple ∧
        FindersBind h s.className key.type.simple key.name
    | none =>
      s.ShowsKey header? [emptyConstructorText s.className] "Serializable" ∧
        FindersBind h s.className "Long" "UniqueId" := by
  intro s
  have hshows := s.showsKey header?
  have hfinders := findersBind h s.className
  have hname : s.className = p.entity.className := rfl
  have hkey : s.key? = p.key?.map .ofKey := rfl
  rw [hname, Hierarchy.finderKey_of_mapped hrs hp] at hfinders
  rw [keyType, hkey] at hshows
  cases h : p.key? with
  | some key =>
    rw [h] at hshows hfinders
    rw [Option.map_some, Option.toList_some, List.map_singleton, List.map_cons, List.map_singleton,
      render_emptyConstructor, render_keyConstructor] at hshows
    exact ⟨hshows, hfinders⟩
  | none =>
    rw [h] at hshows hfinders
    rw [Option.map_none, Option.toList_none, List.map_nil, List.map_singleton,
      render_emptyConstructor] at hshows
    have hserializable : serializableType.simple = "Serializable" := by decide
    have hlong : KeyRef.fallback.type.simple = "Long" := by decide
    rw [Option.map_none, Option.getD_none, hserializable] at hshows
    rw [Option.map_none, Option.getD_none, hlong] at hfinders
    exact ⟨hshows, hfinders⟩

/-! ### A nested target that is mapped later -/

/-- A class that is derived from `Person` and has no key of its own. -/
def student : Entity where
  kind := .subclass
  name := "Student"
  type := ⟨"school.Student"⟩
  isAbstract := false
  key? := none
  properties := []
  manyToOnes := []
  sets := []
  derived := []

/-- A class with a key, from which `Student` is derived. -/
def person : Entity where
  kind := .root
  name := "Person"
  type := ⟨"school.Person"⟩
  isAbstract := false
  key? := some (.simple ⟨"Number", ⟨"java.math.BigInteger"⟩, "number"⟩)
  properties := []
  manyToOnes := []
  sets := []
  derived := [student]

/-- A class with an association that leads to `Student`. -/
def room : Entity where
  kind := .root
  name := "Room"
  type := ⟨"school.Room"⟩
  isAbstract := false
  key? := none
  properties := []
  manyToOnes := [⟨"Tenant", ⟨"school.Student"⟩, .column "tenant"⟩]
  sets := []
  derived := []

/-- Two documents, the first of which mentions a class of the second. -/
def schoolResources : List Resource :=
  [⟨"Room.hbm.xml", some "school", [room]⟩, ⟨"Person.hbm.xml", some "school", [person]⟩]

/-- What the documents tell of their classes. -/
def schoolHierarchy : Hierarchy where
  facts := [
    ⟨"Student", some "Person", none⟩,
    ⟨"Person", none, some ⟨⟨"java.math.BigInteger"⟩, "Number"⟩⟩,
    ⟨"Room", none, none⟩]
  nodup_names := by decide

theorem mapped_student : Mapped schoolResources ⟨student, [person]⟩ :=
  ⟨⟨"Person.hbm.xml", some "school", [person]⟩, List.mem_cons_of_mem _ List.mem_cons_self,
    .derived (.root List.mem_cons_self) List.mem_cons_self⟩

theorem generated_keys_agree_school :
    Hierarchy.ofResources schoolResources = .ok schoolHierarchy ∧
      Mapped schoolResources ⟨student, [person]⟩ ∧
      (ofPlaced schoolHierarchy .empty ⟨student, [person]⟩).ShowsKey none
        [emptyConstructorText "Student", keyConstructorText "Student" "BigInteger" "Number"]
        "BigInteger" ∧
      FindersBind schoolHierarchy "Student" "BigInteger" "Number" := by
  have hresources : Hierarchy.ofResources schoolResources = .ok schoolHierarchy := rfl
  have hname : student.className = "Student" := by decide
  have htype : (⟨"java.math.BigInteger"⟩ : TypeName).simple = "BigInteger" := by decide
  refine ⟨hresources, mapped_student, ?_⟩
  rw [← hname, ← htype]
  exact generated_keys_agree hresources mapped_student .empty none

end Scaffold

end EntityScaffold
