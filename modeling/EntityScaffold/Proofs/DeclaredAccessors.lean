import EntityScaffold.Proofs.DocumentOrder

/-!
# Accessors that are called

The methods of a base class call getters, and its constructor for the key calls a setter. Some of
the names come from the class itself and some from the classes around it: an inherited key, and the
names that are shown. Each of them is declared with its field in the base class of an entity on the
nesting path (`called_accessors_are_declared`), and each base class on the path extends the class
next around it, so what is declared further out is inherited.
-/

namespace EntityScaffold

namespace Java

mutual

/-- The names of the methods that an expression calls. -/
def Expr.called : Expr → List String
  | .name _ | .text _ | .new _ | .classOf _ => []
  | .call method arguments => method :: calledInAll arguments
  | .invoke receiver method arguments => method :: receiver.called ++ calledInAll arguments
  | .cast _ value | .isNull value | .isInstance value _ | .not value => value.called
  | .joined _ operands => calledInAll operands

def calledInAll : List Expr → List String
  | [] => []
  | e :: es => e.called ++ calledInAll es

end

def Statement.called : Statement → List String
  | .run value | .assign _ value | .declare _ _ value | .giveBack value => value.called
  | .onlyIf condition body => condition.called ++ body.called

/-- The names of the methods that a method calls. -/
def Method.called (m : Method) : List String :=
  m.body.flatMap (·.called)

theorem calledInAll_eq_flatMap (es : List Expr) : calledInAll es = es.flatMap Expr.called := by
  induction es with
  | nil => rfl
  | cons e es ih => rw [calledInAll, ih, List.flatMap_cons]

end Java

namespace Scaffold

open Java Text
open Mapping (Entity KeyComponent Mapped Placed Resource)

variable {s : Scaffold} {name : String}

/-! ## What is called -/

/-- The names by which the methods of the base class ask for something: of the key, of a component
of a composite key, and the names shown. -/
def Asks (s : Scaffold) (name : String) : Prop :=
  (∃ key, s.key? = some key ∧ name = key.name) ∨
    (∃ component ∈ s.entity.keyComponents, name = component.name) ∨ name ∈ s.shown.names

/-- The method of the given name is an accessor for a name that is asked for, or one of a few others
that call no accessor. -/
def Calls (s : Scaffold) (called : String) : Prop :=
  called ∈ ["add", "equals", "hashCode", "initialize"] ∨
    ∃ name, s.Asks name ∧ (called = getterName name ∨ called = setterName name)

theorem Asks.getter (h : s.Asks name) : s.Calls (getterName name) :=
  .inr ⟨name, h, .inl rfl⟩

@[simp]
theorem called_valueOf (name : String) : (valueOf name).called = [getterName name] :=
  rfl

@[simp]
theorem called_valueIn (object : Expr) (name : String) :
    (valueIn object name).called = getterName name :: object.called := by
  simp [valueIn, Expr.called, calledInAll]

theorem calls_of_label? {label : String} (h : s.label? = some label) :
    s.Calls (getterName label) := by
  have hshown := List.find?_some h
  exact Asks.getter (.inr (.inr (List.contains_iff_mem.mp hshown)))

theorem calls_of_mem_simpleIdentity {key : KeyRef} (hkey : s.key? = some key) {m : Method}
    (hm : m ∈ s.simpleIdentity key) : ∀ called ∈ m.called, s.Calls called := by
  have hgetter : s.Calls (getterName key.name) := Asks.getter (.inl ⟨key, hkey, rfl⟩)
  have hequals : s.Calls "equals" := .inl (by decide)
  have hhash : s.Calls "hashCode" := .inl (by decide)
  simp only [simpleIdentity, List.mem_cons, List.not_mem_nil, or_false] at hm
  rcases hm with rfl | rfl | rfl
  · simp [equalsMethod, Method.called, differsUnlessInstance, differsIf, Statement.called,
      Expr.called, calledInAll, compared, hgetter, hequals]
  · simp [hashMethod, Method.called, identityHashIf, Statement.called, Expr.called, calledInAll,
      hgetter, hhash]
  · cases hlabel : s.label? with
    | none =>
      simp [textMethod, Method.called, Statement.called, simpleText, hlabel, Expr.called,
        calledInAll, opening, closing, hgetter]
    | some label =>
      simp [textMethod, Method.called, Statement.called, simpleText, hlabel, Expr.called,
        calledInAll, opening, closing, hgetter, calls_of_label? hlabel]

theorem calls_of_mem_compositeIdentity {components : List KeyComponent}
    (hcomponents : ∀ component ∈ components, component ∈ s.entity.keyComponents) {m : Method}
    (hm : m ∈ s.compositeIdentity components) : ∀ called ∈ m.called, s.Calls called := by
  have hgetter (component : KeyComponent) (h : component ∈ components) :
      s.Calls (getterName component.name) :=
    Asks.getter (.inr (.inl ⟨component, hcomponents component h, rfl⟩))
  have hequals : s.Calls "equals" := .inl (by decide)
  have hhash : s.Calls "hashCode" := .inl (by decide)
  intro called hcalled
  simp only [compositeIdentity, List.mem_cons, List.not_mem_nil, or_false] at hm
  rcases hm with rfl | rfl | rfl
  · obtain ⟨component, hc, rfl | rfl | rfl⟩ : ∃ component ∈ components,
        called = getterName component.name ∨ called = "equals" ∨
          called = getterName component.name := by
      simpa [equalsMethod, Method.called, differsUnlessInstance, differsIn, differsIf,
        Statement.called, Expr.called, calledInAll, compared] using hcalled
    · exact hgetter component hc
    · exact hequals
    · exact hgetter component hc
  · obtain ⟨component, hc, rfl⟩ | rfl | ⟨component, hc, rfl | rfl⟩ :
        (∃ component ∈ components, called = getterName component.name) ∨ called = "hashCode" ∨
          ∃ component ∈ components, called = "hashCode" ∨ called = getterName component.name := by
      simpa [hashMethod, Method.called, identityHashIf, Statement.called, Expr.called,
        calledInAll_eq_flatMap] using hcalled
    · exact hgetter component hc
    · exact hhash
    · exact hhash
    · exact hgetter component hc
  · obtain ⟨part, hpart, hcalled⟩ : ∃ part ∈ (components.map fun component =>
        valueOf component.name).intersperse (.text ", "), called ∈ part.called := by
      simpa [textMethod, Method.called, Statement.called, Expr.called, calledInAll_eq_flatMap,
        opening, closing, Function.comp_def] using hcalled
    rcases mem_of_mem_intersperse hpart with rfl | hpart
    · exact absurd hcalled List.not_mem_nil
    · obtain ⟨component, hc, rfl⟩ := List.mem_map.mp hpart
      rw [called_valueOf, List.mem_singleton] at hcalled
      rw [hcalled]
      exact hgetter component hc

theorem calls_of_mem_identityMethods {m : Method} (hm : m ∈ s.identityMethods) :
    ∀ called ∈ m.called, s.Calls called := by
  unfold identityMethods at hm
  split at hm
  · next key _ hkey => exact calls_of_mem_simpleIdentity hkey hm
  · next key hkey hcomposite =>
    refine calls_of_mem_compositeIdentity (fun component hcomponent => ?_) hm
    rw [Entity.keyComponents, hcomposite]
    exact hcomponent
  · exact absurd hm List.not_mem_nil

theorem calls_of_debugMethod (s : Scaffold) : ∀ called ∈ s.debugMethod.called, s.Calls called := by
  intro called hcalled
  obtain ⟨name, hname, rfl⟩ : ∃ name ∈ s.shown.names, called = getterName name := by
    simpa [debugMethod, textMethod, Method.called, Statement.called, Expr.called,
      calledInAll_eq_flatMap, opening, closing] using hcalled
  exact Asks.getter (.inr (.inr hname))

/-- The methods of a base class call no accessors but those for the names that they ask for. -/
theorem calls_of_mem_baseClass {m : Method} (hm : m ∈ s.baseClass.methods) :
    ∀ called ∈ m.called, s.Calls called := by
  have hinitialize : s.Calls "initialize" := .inl (by decide)
  have hadd : s.Calls "add" := .inl (by decide)
  rw [methods_baseClass] at hm
  rcases List.mem_append.mp hm with hm | hm
  · rcases List.mem_append.mp hm with hm | hm
    · rcases List.mem_append.mp hm with hm | hm
      · rcases List.mem_cons.mp hm with rfl | hm
        · simp [emptyConstructor, Method.called, initializeCall, Statement.called, Expr.called,
            calledInAll, hinitialize]
        · obtain ⟨key, hkey, rfl⟩ := List.mem_map.mp hm
          have hsetter : s.Calls (setterName key.name) :=
            .inr ⟨key.name, .inl ⟨key, Option.mem_toList.mp hkey, rfl⟩, .inr rfl⟩
          simp [keyConstructor, Method.called, initializeCall, Statement.called, Expr.called,
            calledInAll, hsetter, hinitialize]
      · rcases List.mem_cons.mp hm with rfl | hm
        · exact fun called hcalled => absurd hcalled List.not_mem_nil
        · rcases cases_of_mem_accessorGroups hm with ⟨f, start, -, rfl⟩ | ⟨f, rfl⟩ | ⟨set, rfl⟩
          · exact fun called hcalled => absurd hcalled List.not_mem_nil
          · exact fun called hcalled => absurd hcalled List.not_mem_nil
          · simp [adder, Method.called, Statement.called, Expr.called, calledInAll, hadd]
    · exact calls_of_mem_identityMethods hm
  · rw [List.mem_singleton.mp hm]
    exact s.calls_of_debugMethod

theorem getterName_ne {name text : String} (h : text.toList.head? ≠ some 'g') :
    getterName name ≠ text :=
  append_ne_of_head? (by decide) h

theorem setterName_ne {name text : String} (h : text.toList.head? ≠ some 's') :
    setterName name ≠ text :=
  append_ne_of_head? (by decide) h

theorem getterName_ne_setterName (name other : String) : getterName name ≠ setterName other := by
  apply getterName_ne
  simp [setterName]

theorem Calls.asks (h : s.Calls (getterName name) ∨ s.Calls (setterName name)) : s.Asks name := by
  -- accessors start with `get` and `set`, and what else is called starts with other letters
  have hfew : ∀ text ∈ ["add", "equals", "hashCode", "initialize"],
      text.toList.head? ≠ some 'g' ∧ text.toList.head? ≠ some 's' := by decide
  rcases h with (h | ⟨other, hasks, h | h⟩) | (h | ⟨other, hasks, h | h⟩)
  · exact absurd rfl (getterName_ne (hfew _ h).1)
  · rwa [(String.append_right_inj _).mp h]
  · exact absurd h (getterName_ne_setterName name other)
  · exact absurd rfl (setterName_ne (hfew _ h).2)
  · exact absurd h.symm (getterName_ne_setterName other name)
  · rwa [(String.append_right_inj _).mp h]

/-! ## What is declared -/

/-- The text declares a private field for an accessor name with a getter and a setter, all of one
type. -/
structure DeclaresAccessors (text name type : String) : Prop where
  field : Occurs ("\tprivate " ++ type ++ " i" ++ name ++ ";\n") text
  getter : Occurs ("\tpublic " ++ type ++ " get" ++ name ++ "() \x7b return i" ++ name ++ "; \x7d\n")
    text
  setter : Occurs ("\tpublic void set" ++ name ++ "(" ++ type ++ " " ++ parameterName name ++
    ") \x7b i" ++ name ++ " = " ++ parameterName name ++ "; \x7d\n") text

namespace AccessedField

theorem render_declaration (f : AccessedField) :
    f.declaration.render = "\tprivate " ++ f.type.render ++ " i" ++ f.name ++ ";\n" := by
  rw [← String.toList_inj]
  simp [declaration, Field.render, renderWords, fieldName]

theorem render_getter (f : AccessedField) :
    (f.reader (getterName f.name)).render =
      "\tpublic " ++ f.type.render ++ " get" ++ f.name ++ "() \x7b return i" ++ f.name ++
        "; \x7d\n" := by
  rw [← String.toList_inj]
  simp [reader, Method.render, Method.renderBody, renderWords, Statement.render, Expr.render,
    fieldName, getterName]

theorem render_setter (f : AccessedField) :
    f.setter.render = "\tpublic void set" ++ f.name ++ "(" ++ f.type.render ++ " " ++
      parameterName f.name ++ ") \x7b i" ++ f.name ++ " = " ++ parameterName f.name ++
        "; \x7d\n" := by
  have hvoid : (TypeUse.of ⟨"void"⟩).render = "void" := by decide
  rw [← String.toList_inj]
  simp [setter, Method.render, Method.renderBody, renderWords, Statement.render, Expr.render,
    hvoid, fieldName, setterName]

end AccessedField

/-- Every field is declared with its accessors. -/
theorem declaresAccessors_of_mem_fields {f : AccessedField} (hf : f ∈ fields s.entity)
    (header? : Option String) :
    DeclaresAccessors (s.artifact header? .base).contents f.name f.type.render := by
  have hmethod (m : Method) (hm : m ∈ f.accessors) :
      Occurs m.render (s.artifact header? .base).contents := by
    have hgroup : m ∈ s.accessorGroups.flatten := mem_accessorGroups_iff.mpr (.inl ⟨f, hf, hm⟩)
    have hmem : m ∈ s.baseClass.methods := by
      rw [methods_baseClass]
      exact List.mem_append_left _ (List.mem_append_left _
        (List.mem_append_right _ (List.mem_cons_of_mem _ hgroup)))
    exact (occurs_member (ClassDeclaration.mem_methods_iff.mp hmem)).trans
      (s.occurs_artifact header? .base)
  refine ⟨?_, ?_, ?_⟩
  · rw [← f.render_declaration]
    exact (occurs_member (field_mem_baseClass hf)).trans (s.occurs_artifact header? .base)
  · rw [← f.render_getter]
    exact hmethod _ (List.mem_append_right _ List.mem_cons_self)
  · rw [← f.render_setter]
    exact hmethod _ (List.mem_append_right _ (List.mem_cons_of_mem _ List.mem_cons_self))

/-- What an entity shows is the name of one of its fields. -/
theorem exists_field_of_shows {e : Entity} (h : e.Shows name) : ∃ f ∈ fields e, f.name = name := by
  unfold fields scalarFields associationFields
  simp only [List.mem_append, List.mem_map, Option.mem_toList]
  cases h with
  | key h => exact ⟨_, .inl (.inl (.inl ⟨_, Entity.simpleKey?_eq_some_iff.mpr h, rfl⟩)), rfl⟩
  | component h hcomponent =>
    exact ⟨_, .inl (.inl (.inr ⟨_, Entity.mem_keyComponents_iff.mpr ⟨_, h, hcomponent⟩, rfl⟩)),
      rfl⟩
  | property h => exact ⟨_, .inl (.inr ⟨_, h, rfl⟩), rfl⟩
  | association h => exact ⟨_, .inr (.inl ⟨_, h, rfl⟩), rfl⟩

/-- The first line of the base class of a derived entity. -/
def derivedHeadText (className parentName : String) : String :=
  "public abstract class Base" ++ className ++ " extends " ++ parentName ++
    " implements Serializable \x7b\n"

theorem renderHead_baseClass {parent : TypeName} (hparent : s.parent? = some parent) :
    s.baseClass.renderHead = derivedHeadText s.className parent.simple := by
  have hserializable : serializableType.simple = "Serializable" := by decide
  unfold baseClass derivedHeadText ClassDeclaration.renderHead
  generalize serializableType = t at *
  generalize s.className = c
  simp only [hparent, Option.map_some, Option.toList, List.map_nil, List.map_cons, TypeUse.of,
    TypeUse.render, hserializable]
  generalize parent.simple = n
  simp only [renderWords, List.map_nil, List.map_cons, if_true, String.join_nil,
    String.join_cons, ArtifactKind.className]
  rw [← String.toList_inj]
  simp

theorem occurs_derivedHeadText {parent : TypeName} (hparent : s.parent? = some parent)
    (header? : Option String) :
    Occurs (derivedHeadText s.className parent.simple) (s.artifact header? .base).contents := by
  rw [← renderHead_baseClass hparent]
  exact (occurs_head _).trans (s.occurs_artifact header? .base)

/-! ## On the nesting path -/

/-- All that the base class of an entity asks for is shown by an entity on its path. -/
theorem exists_shows_of_asks {h : Hierarchy} {p : Placed} (hasks : (onPath h p).Asks name) :
    ∃ e ∈ p.path, e.Shows name := by
  rcases hasks with ⟨key, hkey, rfl⟩ | ⟨component, hcomponent, rfl⟩ | hshown
  · obtain ⟨simple, hsimple, rfl⟩ : ∃ simple, p.key? = some simple ∧ .ofKey simple = key := by
      simpa [onPath, ofPlaced] using hkey
    obtain ⟨e, he, hown⟩ := List.exists_of_findSome?_eq_some hsimple
    exact ⟨e, he, .key (Entity.simpleKey?_eq_some_iff.mp hown)⟩
  · obtain ⟨key, hkey, hmem⟩ := Entity.mem_keyComponents_iff.mp hcomponent
    exact ⟨p.entity, List.mem_cons_self, .component hkey hmem⟩
  · exact mem_namesOn_iff.mp hshown

end Scaffold

/-! ## Every base class -/

open Mapping (Entity Mapped Placed Resource)
open Java (Method)
open Scaffold (getterName setterName DeclaresAccessors derivedHeadText)

theorem Mapping.Mapped.of_suffix {rs : List Resource} {p q : Placed} (hp : Mapped rs p)
    (hq : q.path <:+ p.path) : Mapped rs q := by
  obtain ⟨e, above⟩ := p
  induction above generalizing e with
  | nil =>
    rcases List.suffix_cons_iff.mp hq with hq | hq
    · cases q
      cases hq
      exact hp
    · cases List.suffix_nil.mp hq
  | cons parent rest ih =>
    rcases List.suffix_cons_iff.mp hq with hq | hq
    · cases q
      cases hq
      exact hp
    · exact ih parent hp.outer hq

namespace Generator

/-- The base class of an entity as an artifact. -/
def baseOf (g : Generator) (p : Placed) : Artifact :=
  (Scaffold.onPath g.hierarchy p).artifact g.header? .base

/-- The accessors that the base class of `p` calls are declared in base classes on its path, and
each of these extends the class next around it. -/
structure DeclaresCalled (g : Generator) (p : Placed) : Prop where
  accessors : ∀ m ∈ (Scaffold.onPath g.hierarchy p).baseClass.methods, ∀ name,
    getterName name ∈ m.called ∨ setterName name ∈ m.called →
      ∃ q : Placed, q.path <:+ p.path ∧ ∃ type, DeclaresAccessors (g.baseOf q).contents name type
  inherited : ∀ q : Placed, q.path <:+ p.path → ∀ parent, q.parent? = some parent →
    Text.Occurs (derivedHeadText q.entity.className parent.className) (g.baseOf q).contents

theorem declaresCalled (g : Generator) (p : Placed) : g.DeclaresCalled p where
  accessors := by
    intro m hm name hcalled
    have hasks := Scaffold.Calls.asks (hcalled.imp (Scaffold.calls_of_mem_baseClass hm _)
      (Scaffold.calls_of_mem_baseClass hm _))
    obtain ⟨e, he, hshows⟩ := Scaffold.exists_shows_of_asks hasks
    -- the rest of the path from there on is the path of the entity that shows the name
    obtain ⟨inner, outer, hpath⟩ := List.append_of_mem he
    obtain ⟨f, hf, rfl⟩ := Scaffold.exists_field_of_shows hshows
    refine ⟨⟨e, outer⟩, ⟨inner, hpath.symm⟩, f.type.render, ?_⟩
    exact Scaffold.declaresAccessors_of_mem_fields (s := Scaffold.onPath g.hierarchy ⟨e, outer⟩) hf
      g.header?
  inherited := by
    intro q _ parent hparent
    have hextends : (Scaffold.onPath g.hierarchy q).parent? = some parent.type := by
      simp [Scaffold.onPath, Scaffold.ofPlaced, hparent]
    exact Scaffold.occurs_derivedHeadText hextends g.header?

end Generator

/-- The base classes of a plan are those of the mapped entities. The accessors that they call are
declared on the nesting path, in base classes of the same plan, and inherited from there. -/
theorem called_accessors_are_declared {rs : List Resource} {h : Hierarchy}
    (hrs : Hierarchy.ofResources rs = .ok h) (g : Generator) :
    (∀ a ∈ g.plan rs, a.kind = .base → ∃ p, Mapped rs p ∧ a = g.baseOf p) ∧
      ∀ p, Mapped rs p → g.DeclaresCalled p ∧
        ∀ q : Placed, q.path <:+ p.path → Mapped rs q ∧ g.baseOf q ∈ g.plan rs := by
  have hplan := Generator.plan_eq_flatMap hrs g
  refine ⟨fun a ha hkind => ?_, fun p hp => ⟨g.declaresCalled p, fun q hq => ?_⟩⟩
  · rw [hplan] at ha
    obtain ⟨p, hp, ha⟩ := List.mem_flatMap.mp ha
    obtain ⟨kind, -, rfl⟩ := List.mem_map.mp ha
    have hbase : kind = .base := hkind
    exact ⟨p, Mapping.mem_placed_iff.mp hp, by rw [hbase]; rfl⟩
  · have hmapped := hp.of_suffix hq
    refine ⟨hmapped, ?_⟩
    rw [hplan]
    exact List.mem_flatMap.mpr ⟨q, Mapping.mem_placed_iff.mpr hmapped,
      List.mem_map_of_mem ArtifactKind.base.mem_all⟩

/-! ### An inherited key -/

theorem called_accessors_are_declared_school :
    let student : Placed := ⟨Scaffold.student, [Scaffold.person]⟩
    let g := Conversion.schoolGenerator
    Hierarchy.ofResources Scaffold.schoolResources = .ok g.hierarchy ∧
      Mapped Scaffold.schoolResources student ∧
      (∃ m ∈ (Scaffold.onPath g.hierarchy student).baseClass.methods,
        getterName "Number" ∈ m.called) ∧
      (∃ q : Placed, q.path <:+ student.path ∧ g.baseOf q ∈ g.plan Scaffold.schoolResources ∧
        ∃ type, DeclaresAccessors (g.baseOf q).contents "Number" type) ∧
      Text.Occurs (derivedHeadText "Student" "Person") (g.baseOf student).contents := by
  intro student g
  have hresources : Hierarchy.ofResources Scaffold.schoolResources = .ok g.hierarchy := rfl
  have hstudent : Mapped Scaffold.schoolResources student := Scaffold.mapped_student
  have hany : (Scaffold.onPath g.hierarchy student).baseClass.methods.any
      (fun m => decide (getterName "Number" ∈ m.called)) = true := by decide +kernel
  obtain ⟨m, hm, hcalled⟩ := List.any_eq_true.mp hany
  obtain ⟨-, hall⟩ := called_accessors_are_declared hresources g
  obtain ⟨hdeclares, hpath⟩ := hall student hstudent
  obtain ⟨q, hq, hdeclared⟩ :=
    hdeclares.accessors m hm "Number" (.inl (of_decide_eq_true hcalled))
  have hextends := hdeclares.inherited student List.suffix_rfl Scaffold.person rfl
  have hnames : Scaffold.student.className = "Student" ∧ Scaffold.person.className = "Person" := by
    decide
  rw [hnames.1, hnames.2] at hextends
  exact ⟨hresources, hstudent, ⟨m, hm, of_decide_eq_true hcalled⟩,
    ⟨q, hq, (hpath q hq).2, hdeclared⟩, hextends⟩

end EntityScaffold
