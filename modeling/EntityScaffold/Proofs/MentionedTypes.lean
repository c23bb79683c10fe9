import EntityScaffold.Proofs.BaseMembers
import EntityScaffold.Proofs.WrittenTypes

/-!
# Types that generated code mentions

The code of a file mentions types in many places: in fields, in the accessors of every member, in
constructors, in the methods that compare objects, in finders (`mem_mentioned_baseClass`,
`mem_mentioned_accessBaseClass`). What the file asks to import is listed apart from the code and
under conditions of its own (`askedIn_baseRequests`, `askedIn_accessBaseRequests`). Still the two
agree: a file imports those types that its code mentions and that live in a package, and nothing
else (`mem_imports_iff_mentioned`).
-/

namespace EntityScaffold

open Java (ClassDeclaration Expr Field ImportRequest Member Method Statement TypeName TypeUse
  importsAfter mem_importsAfter mentionedInAll)
open Mapping (Entity KeyComponent ManyToOne SetMember)

namespace Java

theorem mentionedInAll_eq_flatMap (es : List Expr) :
    mentionedInAll es = es.flatMap Expr.mentioned := by
  induction es with
  | nil => rfl
  | cons e es ih => rw [mentionedInAll, ih, List.flatMap_cons]

theorem flatMap_mentioned_field (fs : List Field) :
    (fs.map Member.field).flatMap (·.mentioned) = fs.flatMap (·.mentioned) := by
  rw [List.flatMap_map]
  rfl

theorem flatMap_mentioned_method (ms : List Method) :
    (ms.map Member.method).flatMap (·.mentioned) = ms.flatMap (·.mentioned) := by
  rw [List.flatMap_map]
  rfl

/-! ## Requests -/

/-- Among several requests there is one for `t`, or for the name of `t`. -/
def AskedIn (requests : List ImportRequest) (t : TypeName) : Prop :=
  ∃ request ∈ requests, request.qualified = t.qualified

section Requests

variable {t : TypeName}

theorem askedIn_nil : AskedIn [] t ↔ False := by
  simp [AskedIn]

theorem askedIn_cons {request : ImportRequest} {requests : List ImportRequest} :
    AskedIn (request :: requests) t ↔ t = ⟨request.qualified⟩ ∨ AskedIn requests t := by
  obtain ⟨qualified⟩ := t
  simp [AskedIn, eq_comm]

theorem askedIn_cons_name {u : TypeName} {requests : List ImportRequest} :
    AskedIn (.name u.qualified :: requests) t ↔ t = u ∨ AskedIn requests t :=
  askedIn_cons

theorem askedIn_append {requests others : List ImportRequest} :
    AskedIn (requests ++ others) t ↔ AskedIn requests t ∨ AskedIn others t := by
  simp [AskedIn, or_and_right, exists_or]

theorem askedIn_flatMap {α : Type} {as : List α} {f : α → List ImportRequest} :
    AskedIn (as.flatMap f) t ↔ ∃ a ∈ as, AskedIn (f a) t := by
  simp only [AskedIn, List.mem_flatMap]
  grind

theorem askedIn_map_type {α : Type} {as : List α} (f : α → TypeName) :
    AskedIn (as.map fun a => .type (f a)) t ↔ ∃ a ∈ as, t = f a := by
  simp only [AskedIn, List.mem_map]
  constructor
  · rintro ⟨_, ⟨a, ha, rfl⟩, hsame⟩
    exact ⟨a, ha, congrArg TypeName.mk hsame.symm⟩
  · rintro ⟨a, ha, rfl⟩
    exact ⟨_, ⟨a, ha, rfl⟩, rfl⟩

end Requests

end Java

namespace Scaffold

open Java (AskedIn askedIn_append askedIn_cons askedIn_cons_name askedIn_flatMap askedIn_map_type
  askedIn_nil)
open Java (flatMap_mentioned_field flatMap_mentioned_method mentionedInAll_eq_flatMap)

variable {s : Scaffold} {e : Entity} {t : TypeName}

/-! ## The base class -/

/-- The types of the language that every base class mentions. -/
def memberTypes : List TypeName :=
  [⟨"long"⟩, ⟨"void"⟩, ⟨"String"⟩]

/-- The types of the language that the methods which compare objects mention besides. -/
def comparisonTypes : List TypeName :=
  [⟨"boolean"⟩, ⟨"Object"⟩, ⟨"int"⟩]

theorem eq_of_mem_mentioned_nameConstants (ht : t ∈ (nameConstants e).flatMap (·.mentioned)) :
    t = ⟨"String"⟩ := by
  obtain ⟨f, hf, ht⟩ := List.mem_flatMap.mp ht
  unfold nameConstants at hf
  rcases List.mem_append.mp hf with hf | hf
  · obtain ⟨key, -, rfl⟩ := List.mem_map.mp hf
    exact List.mem_singleton.mp ht
  · obtain ⟨property, -, hf⟩ := List.mem_filterMap.mp hf
    obtain ⟨column, -, rfl⟩ := Option.map_eq_some_iff.mp hf
    exact List.mem_singleton.mp ht

/-- What the fields of a base class mention, constants apart. -/
theorem mem_mentioned_baseFields :
    t ∈ s.baseFields.flatMap (·.mentioned) ↔
      t = ⟨"long"⟩ ∨ (∃ f ∈ fields s.entity, t ∈ f.type.mentioned) ∨
        t ∈ (nameConstants s.entity).flatMap (·.mentioned) := by
  have hversion : storedVersion.mentioned = [⟨"long"⟩] := rfl
  have hdeclaration (f : AccessedField) : f.declaration.mentioned = f.type.mentioned :=
    List.append_nil _
  rw [baseFields, List.cons_append, List.flatMap_cons, List.flatMap_append, List.flatMap_map,
    List.mem_append, List.mem_append, hversion, List.mem_singleton]
  simp only [hdeclaration, List.mem_flatMap]

theorem mentioned_reader (f : AccessedField) (name : String) :
    (f.reader name).mentioned = f.type.mentioned := by
  simp [AccessedField.reader, Method.mentioned, Statement.mentioned, Expr.mentioned]

theorem mentioned_setter (f : AccessedField) :
    f.setter.mentioned = ⟨"void"⟩ :: f.type.mentioned := by
  simp [AccessedField.setter, Method.mentioned, Statement.mentioned, Expr.mentioned,
    TypeUse.mentioned, TypeUse.of]

theorem mentioned_adder (set : SetMember) :
    (adder set).mentioned = [⟨"void"⟩, set.element, hashSetType, set.element] :=
  rfl

/-- The accessors mention the types of the fields. -/
theorem mem_mentioned_accessorGroups :
    t ∈ s.accessorGroups.flatten.flatMap (·.mentioned) ↔
      (∃ f ∈ fields s.entity, t ∈ f.type.mentioned) ∨ (∃ set ∈ s.entity.sets, t = hashSetType) ∨
        ∃ f ∈ fields s.entity, t = ⟨"void"⟩ := by
  have hset {set : SetMember} (hset : set ∈ s.entity.sets) : setField set ∈ fields s.entity :=
    List.mem_append_right _ (List.mem_append_right _ (List.mem_map_of_mem hset))
  have hsetter {f : AccessedField} (hf : f ∈ fields s.entity) :
      f.setter ∈ s.accessorGroups.flatten :=
    mem_accessorGroups_iff.mpr
      (.inl ⟨f, hf, List.mem_append_right _ (List.mem_cons_of_mem _ List.mem_cons_self)⟩)
  constructor
  · intro ht
    obtain ⟨m, hm, ht⟩ := List.mem_flatMap.mp ht
    rcases mem_accessorGroups_iff.mp hm with ⟨f, hf, hm⟩ | ⟨set, hmem, rfl⟩
    · rcases cases_of_mem_accessors hm with ⟨start, -, rfl⟩ | rfl
      · rw [mentioned_reader] at ht
        exact .inl ⟨f, hf, ht⟩
      · rw [mentioned_setter, List.mem_cons] at ht
        rcases ht with rfl | ht
        · exact .inr (.inr ⟨f, hf, rfl⟩)
        · exact .inl ⟨f, hf, ht⟩
    · -- an adder takes an element of its set, which the field of the set mentions too
      have helement : ∃ f ∈ fields s.entity, set.element ∈ f.type.mentioned :=
        ⟨setField set, hset hmem, List.mem_cons_of_mem _ List.mem_cons_self⟩
      rw [mentioned_adder] at ht
      simp only [List.mem_cons, List.not_mem_nil, or_false] at ht
      rcases ht with rfl | rfl | rfl | rfl
      · exact .inr (.inr ⟨_, hset hmem, rfl⟩)
      · exact .inl helement
      · exact .inr (.inl ⟨set, hmem, rfl⟩)
      · exact .inl helement
  · rintro (⟨f, hf, ht⟩ | ⟨set, hmem, rfl⟩ | ⟨f, hf, rfl⟩)
    · refine List.mem_flatMap.mpr ⟨f.setter, hsetter hf, ?_⟩
      rw [mentioned_setter]
      exact List.mem_cons_of_mem _ ht
    · have hadder := mem_accessorGroups_iff.mpr (.inr ⟨set, hmem, rfl⟩)
      refine List.mem_flatMap.mpr ⟨adder set, hadder, ?_⟩
      rw [mentioned_adder]
      simp
    · refine List.mem_flatMap.mpr ⟨f.setter, hsetter hf, ?_⟩
      rw [mentioned_setter]
      exact List.mem_cons_self

theorem mentioned_simpleIdentity (s : Scaffold) (key : KeyRef) :
    (s.simpleIdentity key).flatMap (·.mentioned) =
      [⟨"boolean"⟩, ⟨"Object"⟩, s.type .concrete, s.type .concrete, s.type .concrete, ⟨"int"⟩,
        ⟨"String"⟩] := by
  cases hlabel : s.label? <;>
    simp [simpleIdentity, equalsMethod, hashMethod, textMethod, simpleText, hlabel,
      Method.mentioned, differsUnlessInstance, differsIf, identityHashIf, compared, valueOf,
      valueIn, opening, closing, selfType, Statement.mentioned, Expr.mentioned,
      mentionedInAll, TypeUse.mentioned, TypeUse.of]

theorem mentioned_compositeIdentity (s : Scaffold) (components : List KeyComponent) :
    (s.compositeIdentity components).flatMap (·.mentioned) =
      [⟨"boolean"⟩, ⟨"Object"⟩, s.type .concrete, s.type .concrete, s.type .concrete, ⟨"int"⟩,
        ⟨"String"⟩] := by
  have hnone : components.flatMap (fun _ => ([] : List TypeName)) = [] :=
    List.flatMap_eq_nil_iff.mpr fun _ _ => rfl
  have hvalue (name : String) : (valueOf name).mentioned = [] := rfl
  have hvalues : ((components.map fun component =>
      valueOf component.name).intersperse (.text ", ")).flatMap Expr.mentioned = [] := by
    rw [List.flatMap_eq_nil_iff]
    intro part hpart
    rcases mem_of_mem_intersperse hpart with rfl | hpart
    · rfl
    · obtain ⟨component, -, rfl⟩ := List.mem_map.mp hpart
      rfl
  simp [compositeIdentity, equalsMethod, hashMethod, textMethod, Method.mentioned,
    differsUnlessInstance, differsIn, differsIf, identityHashIf, compared, valueIn, opening,
    closing, selfType, Statement.mentioned, Expr.mentioned, mentionedInAll_eq_flatMap,
    TypeUse.mentioned, TypeUse.of, Function.comp_def, List.flatMap_map, hnone, hvalue, hvalues]

/-- The methods of identity mention the concrete class, which they compare objects with. -/
theorem mem_mentioned_identityMethods :
    t ∈ s.identityMethods.flatMap (·.mentioned) ↔
      t ∈ ⟨"String"⟩ :: s.type .concrete :: comparisonTypes ∧
        (s.key?.isSome ∨ s.entity.compositeKey?.isSome) := by
  unfold identityMethods comparisonTypes
  split
  · next key _ hkey =>
    rw [mentioned_simpleIdentity]
    grind
  · next key hkey hcomposite =>
    rw [mentioned_compositeIdentity]
    grind
  · next hkey hcomposite => simp [hkey, hcomposite]

theorem mentioned_debugMethod (s : Scaffold) : s.debugMethod.mentioned = [⟨"String"⟩] := by
  simp [debugMethod, textMethod, Method.mentioned, Statement.mentioned, Expr.mentioned,
    mentionedInAll_eq_flatMap, TypeUse.mentioned, TypeUse.of, opening, closing, valueOf]

theorem mem_mentioned_baseMethods :
    t ∈ s.baseMethods.flatMap (·.mentioned) ↔
      t = ⟨"void"⟩ ∨ t = ⟨"String"⟩ ∨ (∃ key, s.key? = some key ∧ t = key.type) ∨
      t ∈ s.accessorGroups.flatten.flatMap (·.mentioned) ∨
      t ∈ s.identityMethods.flatMap (·.mentioned) := by
  have hempty : s.emptyConstructor.mentioned = [] := rfl
  have hinitializer : initializer.mentioned = [⟨"void"⟩] := rfl
  have hkey : t ∈ (s.key?.toList.map s.keyConstructor).flatMap (·.mentioned) ↔
      ∃ key, s.key? = some key ∧ t = key.type := by
    have hconstructor (key : KeyRef) : (s.keyConstructor key).mentioned = [key.type] := rfl
    simp [List.flatMap_map, hconstructor]
  unfold baseMethods
  simp only [List.flatMap_append, List.flatMap_cons, List.flatMap_nil, List.mem_append, hempty,
    hinitializer, mentioned_debugMethod, List.not_mem_nil, List.mem_singleton, false_or, or_false,
    hkey]
  grind

theorem mem_mentioned_baseClass :
    t ∈ s.baseClass.mentioned ↔
      s.parent? = some t ∨ t = serializableType ∨
      (∃ f ∈ fields s.entity, t ∈ f.type.mentioned) ∨
      (∃ key, s.key? = some key ∧ t = key.type) ∨
      (∃ set ∈ s.entity.sets, t = hashSetType) ∨
      t ∈ memberTypes ∨
      t ∈ s.type .concrete :: comparisonTypes ∧
        (s.key?.isSome ∨ s.entity.compositeKey?.isSome) := by
  have hparent : t ∈ s.baseClass.superclass?.toList.flatMap (·.mentioned) ↔ s.parent? = some t := by
    have hsuperclass : s.baseClass.superclass? = s.parent?.map .of := rfl
    rw [hsuperclass]
    cases s.parent? <;> simp [TypeUse.of, TypeUse.mentioned, eq_comm]
  have hinterfaces : s.baseClass.interfaces.flatMap (·.mentioned) = [serializableType] := rfl
  have hconstants := eq_of_mem_mentioned_nameConstants (e := s.entity) (t := t)
  have hlanguage : t ∈ memberTypes ↔ t = ⟨"long"⟩ ∨ t = ⟨"void"⟩ ∨ t = ⟨"String"⟩ := by
    simp [memberTypes]
  unfold ClassDeclaration.mentioned
  rw [members_baseClass, List.flatMap_append, hinterfaces, flatMap_mentioned_field,
    flatMap_mentioned_method, List.mem_append, List.mem_append, List.mem_append, hparent,
    List.mem_singleton, mem_mentioned_baseFields, mem_mentioned_baseMethods,
    mem_mentioned_accessorGroups, mem_mentioned_identityMethods, List.mem_cons, hlanguage]
  grind

/-- The fields of an entity mention the types of its members. -/
theorem mem_mentioned_fields :
    (∃ f ∈ fields e, t ∈ f.type.mentioned) ↔
      (∃ key, e.simpleKey? = some key ∧ t = key.type) ∨
      (∃ component ∈ e.keyComponents, t = component.type) ∨
      (∃ property ∈ e.properties, t = property.type) ∨
      (∃ association ∈ e.manyToOnes, t = association.target) ∨
      ∃ set ∈ e.sets, t = setType ∨ t = set.element := by
  simp only [fields, scalarFields, associationFields, List.mem_append, List.mem_map,
    Option.mem_toList]
  constructor
  · rintro ⟨f, ((⟨key, hkey, rfl⟩ | ⟨component, hcomponent, rfl⟩) | ⟨property, hproperty, rfl⟩) |
      ⟨association, hassociation, rfl⟩ | ⟨set, hset, rfl⟩, ht⟩
    · exact .inl ⟨key, hkey, List.mem_singleton.mp ht⟩
    · exact .inr (.inl ⟨component, hcomponent, List.mem_singleton.mp ht⟩)
    · exact .inr (.inr (.inl ⟨property, hproperty, List.mem_singleton.mp ht⟩))
    · exact .inr (.inr (.inr (.inl ⟨association, hassociation, List.mem_singleton.mp ht⟩)))
    · exact .inr (.inr (.inr (.inr ⟨set, hset, by
        simpa [setField, TypeUse.mentioned] using ht⟩)))
  · rintro (⟨key, hkey, rfl⟩ | ⟨component, hcomponent, rfl⟩ | ⟨property, hproperty, rfl⟩ |
      ⟨association, hassociation, rfl⟩ | ⟨set, hset, ht⟩)
    · exact ⟨_, .inl (.inl (.inl ⟨key, hkey, rfl⟩)), List.mem_singleton_self _⟩
    · exact ⟨_, .inl (.inl (.inr ⟨component, hcomponent, rfl⟩)), List.mem_singleton_self _⟩
    · exact ⟨_, .inl (.inr ⟨property, hproperty, rfl⟩), List.mem_singleton_self _⟩
    · exact ⟨_, .inr (.inl ⟨association, hassociation, rfl⟩), List.mem_singleton_self _⟩
    · exact ⟨_, .inr (.inr ⟨set, hset, rfl⟩), by simpa [setField, TypeUse.mentioned] using ht⟩

/-! ## The base class of the access object -/

theorem mentioned_finder (s : Scaffold) (association : ManyToOne) :
    (s.finder association).mentioned = [⟨"SuppressWarnings"⟩, listType, s.type .concrete,
      (s.hierarchy.finderKey association.target.simple).type] := by
  simp [finder, finderFor, Method.mentioned, Statement.mentioned, Expr.mentioned, mentionedInAll,
    TypeUse.mentioned, TypeUse.of]

theorem members_accessBaseClass (s : Scaffold) :
    s.accessBaseClass.members = .field s.instanceField ::
      (s.instanceMethod :: s.referenceMethod :: s.finders).map .method := by
  have hfinders : (s.finders.map fun m => [Member.method m]).flatten = s.finders.map .method := by
    rw [← List.flatMap_def, ← List.map_eq_flatMap]
  unfold ClassDeclaration.members accessBaseClass
  simp [hfinders]

theorem mem_mentioned_accessBaseClass :
    t ∈ s.accessBaseClass.mentioned ↔
      t ∈ [s.rootAccessType, s.type .concrete, s.keyType, s.type .access, ⟨"Class"⟩] ∨
      ∃ association ∈ s.entity.columnManyToOnes, t ∈ [⟨"SuppressWarnings"⟩, listType,
        (s.hierarchy.finderKey association.target.simple).type] := by
  have hhead : s.accessBaseClass.superclass?.toList.flatMap (·.mentioned) ++
      s.accessBaseClass.interfaces.flatMap (·.mentioned) =
        [s.rootAccessType, s.type .concrete, s.keyType] := rfl
  have hfield : (Member.field s.instanceField).mentioned = [s.type .access] := rfl
  have hinstance : s.instanceMethod.mentioned = [s.type .access, s.type .access] := rfl
  have hreference : s.referenceMethod.mentioned =
      [⟨"Class"⟩, s.type .concrete, s.type .concrete] := rfl
  have hfinders : t ∈ s.finders.flatMap (·.mentioned) ↔ ∃ association ∈ s.entity.columnManyToOnes,
      t ∈ [⟨"SuppressWarnings"⟩, listType, s.type .concrete,
        (s.hierarchy.finderKey association.target.simple).type] := by
    simp [finders, List.flatMap_map, mentioned_finder]
  unfold ClassDeclaration.mentioned
  rw [hhead, members_accessBaseClass, List.flatMap_cons, hfield, flatMap_mentioned_method,
    List.flatMap_cons, List.flatMap_cons, hinstance, hreference]
  simp only [List.mem_append, List.mem_cons, List.not_mem_nil, or_false, hfinders]
  grind

/-! ## What is asked for -/

/-- A base class asks for the concrete class where there are methods which compare objects. -/
theorem askedIn_baseRequests :
    AskedIn s.baseRequests t ↔
      t = serializableType ∨ (∃ key, s.entity.simpleKey? = some key ∧ t = key.type) ∨
      (∃ component ∈ s.entity.keyComponents, t = component.type) ∨
      (∃ property ∈ s.entity.properties, t = property.type) ∨
      (∃ association ∈ s.entity.manyToOnes, t = association.target) ∨
      (∃ set ∈ s.entity.sets, t = set.element ∨ t = setType ∨ t = hashSetType) ∨
      s.parent? = some t ∨ (∃ key, s.key? = some key ∧ t = key.type) ∨
      t = s.type .concrete ∧ (s.key?.isSome ∨ s.entity.compositeKey?.isSome) := by
  have hsets : AskedIn (s.entity.sets.flatMap setRequests) t ↔
      ∃ set ∈ s.entity.sets, t = set.element ∨ t = setType ∨ t = hashSetType := by
    rw [askedIn_flatMap]
    simp only [setRequests, askedIn_cons, askedIn_nil, or_false]
    rfl
  have hparent : AskedIn (s.parent?.toList.map .type) t ↔ s.parent? = some t := by
    rw [askedIn_map_type (fun parent => parent)]
    simp
  have hconcrete : AskedIn (if s.key?.isSome || s.entity.compositeKey?.isSome then
      [.name (s.type .concrete).qualified] else []) t ↔
        t = s.type .concrete ∧ (s.key?.isSome ∨ s.entity.compositeKey?.isSome) := by
    rw [← Bool.or_eq_true]
    split
    · next h => simp [askedIn_cons_name, askedIn_nil, h]
    · next h => simp [askedIn_nil, h]
  unfold baseRequests
  simp only [askedIn_append, askedIn_map_type, Option.mem_toList, hsets, hparent, hconcrete,
    askedIn_cons, askedIn_nil, or_false, or_assoc, ImportRequest.qualified, serializableType]

/-- A base class of an access object asks for the keys of the targets of its finders. -/
theorem askedIn_accessBaseRequests :
    AskedIn s.accessBaseRequests t ↔
      t ∈ [s.type .concrete, s.type .access, s.rootAccessType, s.keyType] ∨
      ∃ association ∈ s.entity.columnManyToOnes,
        t = listType ∨ t = (s.hierarchy.finderKey association.target.simple).type := by
  have hkey : AskedIn [s.keyRequest] t ↔ t = s.keyType := by
    have hkeyType : (⟨s.keyRequest.qualified⟩ : TypeName) = s.keyType := by
      unfold keyRequest keyType
      cases s.key? <;> rfl
    rw [askedIn_cons, askedIn_nil, or_false, hkeyType]
  have hlist : AskedIn (if s.entity.columnManyToOnes.isEmpty then []
      else [.name "java.util.List"]) t ↔
        ∃ association ∈ s.entity.columnManyToOnes, t = listType := by
    cases s.entity.columnManyToOnes with
    | nil => simp [askedIn_nil]
    | cons first rest =>
      simp [askedIn_cons, askedIn_nil, ImportRequest.qualified, listType]
  unfold accessBaseRequests finderRequest
  simp only [askedIn_append, askedIn_map_type, askedIn_cons_name, hkey, hlist, or_assoc,
    List.mem_cons, List.not_mem_nil, or_false, ← exists_or, ← and_or_left]

/-! ## Both agree -/

/-- What a file asks for are the types that its code mentions, as far as they live in packages. -/
theorem askedIn_requests_iff_mentioned (kind : ArtifactKind) (hpackage : t.package?.isSome) :
    AskedIn (s.sourceFile kind).requests t ↔ t ∈ (s.sourceFile kind).declaration.mentioned := by
  have hlanguage : ∀ t ∈ memberTypes ++ comparisonTypes ++ [⟨"Class"⟩, ⟨"SuppressWarnings"⟩],
      t.package? = none := by decide
  have hnot : t ∉ memberTypes ++ comparisonTypes ++ [⟨"Class"⟩, ⟨"SuppressWarnings"⟩] := by
    intro ht
    rw [hlanguage t ht] at hpackage
    cases hpackage
  simp only [List.mem_append, List.mem_cons, List.not_mem_nil, not_or] at hnot
  cases kind with
  | base =>
    change AskedIn s.baseRequests t ↔ t ∈ s.baseClass.mentioned
    rw [askedIn_baseRequests, mem_mentioned_baseClass, mem_mentioned_fields]
    grind
  | accessBase =>
    change AskedIn s.accessBaseRequests t ↔ t ∈ s.accessBaseClass.mentioned
    rw [askedIn_accessBaseRequests, mem_mentioned_accessBaseClass]
    grind
  | concrete =>
    have hrequests : (s.sourceFile .concrete).requests = [.name (s.type .base).qualified] := rfl
    have hmentioned : (s.sourceFile .concrete).declaration.mentioned = [s.type .base] := rfl
    rw [hrequests, hmentioned, askedIn_cons_name, askedIn_nil, or_false, List.mem_singleton]
  | access =>
    have hrequests : (s.sourceFile .access).requests = [.name (s.type .accessBase).qualified] := rfl
    have hmentioned : (s.sourceFile .access).declaration.mentioned = [s.type .accessBase] := rfl
    rw [hrequests, hmentioned, askedIn_cons_name, askedIn_nil, or_false, List.mem_singleton]

/-- A file imports those types that its code mentions and that live in a package. -/
theorem mem_imports_iff_mentioned (kind : ArtifactKind) {name : String} :
    name ∈ (s.sourceFile kind).imports.names ↔
      ∃ t ∈ (s.sourceFile kind).declaration.mentioned, t.import? = some name := by
  have himports : name ∈ (s.sourceFile kind).imports.names ↔
      (⟨name⟩ : TypeName).package?.isSome ∧ AskedIn (s.sourceFile kind).requests ⟨name⟩ := by
    rw [TypeName.package?_isSome_iff, Java.SourceFile.imports, mem_importsAfter]
    rfl
  rw [himports]
  constructor
  · rintro ⟨hpackage, hasked⟩
    exact ⟨⟨name⟩, (askedIn_requests_iff_mentioned kind hpackage).mp hasked,
      TypeName.import?_eq_some_iff.mpr ⟨hpackage, rfl⟩⟩
  · rintro ⟨t, ht, himport⟩
    obtain ⟨hpackage, rfl⟩ := TypeName.import?_eq_some_iff.mp himport
    exact ⟨hpackage, (askedIn_requests_iff_mentioned kind hpackage).mpr ht⟩

end Scaffold

end EntityScaffold
