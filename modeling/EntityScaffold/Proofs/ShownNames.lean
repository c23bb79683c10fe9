import Mathlib.Data.List.Induction
import EntityScaffold.Proofs.GenerationPlan
import EntityScaffold.Proofs.HierarchyKeys
import EntityScaffold.Proofs.KeyAgreement

/-!
# The names shown in debugging

What a class shows of itself and of the classes around it is a property of its nesting path
(`namesOn`). A generator finds it in another way: it looks up, by its name, the class next around
the one at hand in a table of the classes that are complete. The table is faithful if it holds,
under every name, the names on the path of the class of that name (`Faithful`). A faithful table
stays faithful from one complete class to the next (`Faithful.cons`), so a plan that starts from it
shows in every base class the names on the path of the class (`Faithful.after`).

The base class has one method that lists the names, in ascending order (`methodsNamed_baseClass`,
`render_debugMethod`).
-/

namespace EntityScaffold

open Mapping (CompositeKey Entity KeyComponent ManyToOne Mapped ParentListed ParentsListed Placed
  Property Resource SimpleKey)
open Text (NameSet Occurs)

/-! ## Names on a path -/

theorem Mapping.Source.isSome_column?_iff {source : Mapping.Source} :
    source.column?.isSome ↔ ∃ column, source = .column column := by
  cases source <;> simp [column?]

namespace Mapping.Entity

/-- `name` is the accessor name of something that `e` itself has in a column: of its key, of a
component of its key, of a property or of an association. -/
inductive Shows (e : Entity) : String → Prop
  | key {key : SimpleKey} (h : e.key? = some (.simple key)) : Shows e key.name
  | component {key : CompositeKey} {component : KeyComponent}
      (h : e.key? = some (.composite key)) (hcomponent : component ∈ key.components) :
      Shows e component.name
  | property {property : Property} {column : String} (h : property ∈ e.properties)
      (hsource : property.source = .column column) : Shows e property.name
  | association {association : ManyToOne} {column : String} (h : association ∈ e.manyToOnes)
      (hsource : association.source = .column column) : Shows e association.name

variable {e : Entity}

theorem simpleKey?_eq_some_iff {key : SimpleKey} :
    e.simpleKey? = some key ↔ e.key? = some (.simple key) := by
  unfold simpleKey?
  split
  · next h => rw [h]; simp
  · next h =>
    constructor
    · exact nofun
    · intro hkey
      exact absurd hkey (h key)

theorem mem_keyComponents_iff {component : KeyComponent} :
    component ∈ e.keyComponents ↔
      ∃ key, e.key? = some (.composite key) ∧ component ∈ key.components := by
  unfold keyComponents compositeKey?
  split
  · next key h => simp [h]
  · next h =>
    constructor
    · intro hmem
      exact absurd hmem List.not_mem_nil
    · rintro ⟨key, hkey, -⟩
      exact absurd hkey (h key)

theorem mem_shownNames_iff {name : String} : name ∈ e.shownNames ↔ e.Shows name := by
  simp only [shownNames, columnManyToOnes, List.mem_append, List.mem_map, List.mem_filter,
    Option.mem_toList, Source.isSome_column?_iff, mem_keyComponents_iff, simpleKey?_eq_some_iff]
  constructor
  · rintro (((⟨key, h, rfl⟩ | ⟨component, ⟨key, h, hcomponent⟩, rfl⟩) |
      ⟨property, ⟨h, column, hsource⟩, rfl⟩) | ⟨association, ⟨h, column, hsource⟩, rfl⟩)
    · exact .key h
    · exact .component h hcomponent
    · exact .property h hsource
    · exact .association h hsource
  · intro h
    cases h with
    | key h => exact .inl (.inl (.inl ⟨_, h, rfl⟩))
    | component h hcomponent => exact .inl (.inl (.inr ⟨_, ⟨_, h, hcomponent⟩, rfl⟩))
    | property h hsource => exact .inl (.inr ⟨_, ⟨h, _, hsource⟩, rfl⟩)
    | association h hsource => exact .inr ⟨_, ⟨h, _, hsource⟩, rfl⟩

end Mapping.Entity

/-- The names that the entities on a path show, from the outermost one inwards. -/
def namesOn : List Entity → NameSet
  | [] => .empty
  | e :: above => (namesOn above).insertAll e.shownNames

theorem mem_namesOn_iff {path : List Entity} {name : String} :
    name ∈ (namesOn path).names ↔ ∃ e ∈ path, e.Shows name := by
  induction path with
  | nil => simp [namesOn, NameSet.empty]
  | cons e above ih =>
    rw [namesOn, NameSet.mem_insertAll, ih, Mapping.Entity.mem_shownNames_iff]
    simp

/-- The scaffold of an entity that shows the names on its path. -/
def Scaffold.onPath (hierarchy : Hierarchy) (p : Placed) : Scaffold :=
  ofPlaced hierarchy (namesOn p.path) p

/-! ## Faithful tables -/

section Faithful

variable {rs : List Resource} {h : Hierarchy} {p q : Placed} {ps : List Placed}
  {table : List (String × NameSet)}

/-- The classes that have names in the table. -/
def complete (table : List (String × NameSet)) : List String :=
  table.map (·.1)

theorem isSome_lookup_iff {name : String} :
    (table.lookup name).isSome ↔ name ∈ complete table := by
  simp [complete, List.lookup_isSome_iff]

theorem complete_shownAfter (table : List (String × NameSet)) (ps : List Placed) :
    complete (shownAfter table ps) =
      (ps.map (·.entity.className)).reverse ++ complete table := by
  induction ps generalizing table with
  | nil => rfl
  | cons p ps ih =>
    have hstep : shownAfter table (p :: ps) =
        shownAfter ((p.entity.className, shownAt table p) :: table) ps := rfl
    rw [hstep, ih]
    simp [complete]

/-- Under every name the table holds the names on the path of the mapped entity of that name. -/
def Faithful (rs : List Resource) (table : List (String × NameSet)) : Prop :=
  ∀ name shown, table.lookup name = some shown →
    ∃ p, Mapped rs p ∧ p.entity.className = name ∧ shown = namesOn p.path

theorem faithful_nil (rs : List Resource) : Faithful rs [] := by
  intro name shown hlookup
  cases hlookup

/-- With a faithful table that has the class next around it, an entity gets the names on its
path. -/
theorem Faithful.shownAt_eq (hrs : Hierarchy.ofResources rs = .ok h) (htable : Faithful rs table)
    (hp : Mapped rs p)
    (hparent : ∀ parent, p.parent? = some parent → parent.className ∈ complete table) :
    shownAt table p = namesOn p.path := by
  obtain ⟨e, above⟩ := p
  cases above with
  | nil => rfl
  | cons parent rest =>
    have hcomplete := hparent parent rfl
    rw [← isSome_lookup_iff] at hcomplete
    obtain ⟨shown, hlookup⟩ := Option.isSome_iff_exists.mp hcomplete
    obtain ⟨q, hq, hname, hshown⟩ := htable parent.className shown hlookup
    -- the entry is that of the true parent, as no other class has the name
    have htrue : q = ⟨parent, rest⟩ := hq.unique hrs hp.outer hname
    rw [htrue] at hshown
    have hinherited : shownAt table ⟨e, parent :: rest⟩ =
        ((table.lookup parent.className).getD .empty).insertAll e.shownNames := rfl
    rw [hinherited, hlookup, Option.getD_some, hshown]
    rfl

theorem Faithful.cons (htable : Faithful rs table) (hp : Mapped rs p) :
    Faithful rs ((p.entity.className, namesOn p.path) :: table) := by
  intro name shown hlookup
  by_cases hname : name = p.entity.className
  · rw [hname, List.lookup_cons_self] at hlookup
    exact ⟨p, hp, hname.symm, (Option.some.inj hlookup).symm⟩
  · rw [List.lookup_cons, beq_false_of_ne hname] at hlookup
    exact htable name shown hlookup

/-- What a faithful table tells of a list of entities that has enclosing ones first: it stays
faithful, and in the plan every entity shows the names on its path. -/
theorem Faithful.after (hrs : Hierarchy.ofResources rs = .ok h) (htable : Faithful rs table)
    (hps : ∀ p ∈ ps, Mapped rs p) (hlisted : ParentsListed ps.reverse) (g : Generator) :
    Faithful rs (shownAfter table ps) ∧
      g.planFrom table ps =
        ps.flatMap fun p => (Scaffold.onPath g.hierarchy p).artifacts g.header? := by
  induction ps using List.reverseRecOn with
  | nil => exact ⟨htable, rfl⟩
  | append_singleton ps p ih =>
    rw [List.reverse_append, List.reverse_singleton, List.singleton_append] at hlisted
    obtain ⟨houter, hearlier⟩ := hlisted
    have hp : Mapped rs p := hps p (List.mem_append_right _ List.mem_cons_self)
    obtain ⟨hfaithful, hplan⟩ := ih (fun q hq => hps q (List.mem_append_left _ hq)) hearlier
    have hparent : ∀ parent, p.parent? = some parent →
        parent.className ∈ complete (shownAfter table ps) := by
      intro parent hparent
      obtain ⟨rest, habove⟩ := List.head?_eq_some_iff.mp hparent
      have hmem : ⟨parent, rest⟩ ∈ ps := List.mem_reverse.mp (houter parent rest habove)
      rw [complete_shownAfter, List.mem_append, List.mem_reverse]
      exact .inl (List.mem_map.mpr ⟨_, hmem, rfl⟩)
    have hshown := hfaithful.shownAt_eq hrs hp hparent
    have hstep : shownAfter table (ps ++ [p]) =
        (p.entity.className, shownAt (shownAfter table ps) p) :: shownAfter table ps := by
      rw [shownAfter, List.foldl_append]
      rfl
    constructor
    · rw [hstep, hshown]
      exact hfaithful.cons hp
    · have hlast : g.planFrom (shownAfter table ps) [p] =
          (Scaffold.ofPlaced g.hierarchy (shownAt (shownAfter table ps) p) p).artifacts g.header? :=
        List.append_nil _
      rw [Generator.planFrom_append, hplan, hlast, hshown, List.flatMap_append,
        List.flatMap_singleton]
      rfl

end Faithful

/-! ## The method that lists the names -/

namespace Java

/-- The methods of a class that have a given name. -/
def ClassDeclaration.methodsNamed (c : ClassDeclaration) (name : String) : List Method :=
  c.methods.filter (·.name = name)

theorem renderAll_eq_map (es : List Expr) : renderAll es = es.map Expr.render := by
  induction es with
  | nil => rfl
  | cons e es ih => rw [renderAll, List.map_cons, ih]

end Java

namespace Scaffold

open Java

/-- A text is none that starts with another character. -/
theorem append_ne_of_head? {c : Char} {start rest text : String}
    (hstart : start.toList.head? = some c) (htext : text.toList.head? ≠ some c) :
    start ++ rest ≠ text := by
  intro heq
  apply htext
  rw [← heq, String.toList_append, List.head?_append, hstart]
  rfl

theorem name_ne_of_mem_accessorGroups {s : Scaffold} {m : Method}
    (h : m ∈ s.accessorGroups.flatten) : m.name ≠ "toDebugString" := by
  have hreader (start : String) (hstart : start ∈ ["is", "get"]) (f : AccessedField) :
      (f.reader (start ++ f.name)).name ≠ "toDebugString" := by
    simp only [List.mem_cons, List.not_mem_nil, or_false] at hstart
    rcases hstart with rfl | rfl
    · exact append_ne_of_head? (c := 'i') (by decide) (by decide)
    · exact append_ne_of_head? (c := 'g') (by decide) (by decide)
  rcases cases_of_mem_accessorGroups h with ⟨f, start, hstart, rfl⟩ | ⟨f, rfl⟩ | ⟨set, rfl⟩
  · exact hreader start hstart f
  · exact append_ne_of_head? (c := 's') (by decide) (by decide)
  · exact append_ne_of_head? (c := 'a') (by decide) (by decide)

theorem name_ne_of_mem_identityMethods {s : Scaffold} {m : Method} (h : m ∈ s.identityMethods) :
    m.name ≠ "toDebugString" := by
  have hequals : "equals" ≠ "toDebugString" := by decide
  have hhash : "hashCode" ≠ "toDebugString" := by decide
  have htext : "toString" ≠ "toDebugString" := by decide
  rcases cases_of_mem_identityMethods h with ⟨body, rfl⟩ | ⟨body, rfl⟩ | ⟨text, rfl⟩
  · exact hequals
  · exact hhash
  · exact htext

theorem methodsNamed_baseClass (s : Scaffold) :
    s.baseClass.methodsNamed "toDebugString" = [s.debugMethod] := by
  have hconstructor : ArtifactKind.base.className s.className ≠ "toDebugString" :=
    append_ne_of_head? (c := 'B') (by decide) (by decide)
  have hinitializer : initializer.name ≠ "toDebugString" := by decide
  have hothers : ∀ m ∈ s.emptyConstructor :: s.key?.toList.map s.keyConstructor ++
      initializer :: s.accessorGroups.flatten ++ s.identityMethods, m.name ≠ "toDebugString" := by
    intro m hm
    rcases List.mem_append.mp hm with hm | hm
    · rcases List.mem_append.mp hm with hm | hm
      · rcases List.mem_cons.mp hm with rfl | hm
        · exact hconstructor
        · obtain ⟨key, -, rfl⟩ := List.mem_map.mp hm
          exact hconstructor
      · rcases List.mem_cons.mp hm with rfl | hm
        · exact hinitializer
        · exact name_ne_of_mem_accessorGroups hm
    · exact name_ne_of_mem_identityMethods hm
  have hnone : (s.emptyConstructor :: s.key?.toList.map s.keyConstructor ++
      initializer :: s.accessorGroups.flatten ++ s.identityMethods).filter
        (·.name = "toDebugString") = [] := by
    rw [List.filter_eq_nil_iff]
    intro m hm
    simpa using hothers m hm
  have hdebug : [s.debugMethod].filter (·.name = "toDebugString") = [s.debugMethod] := rfl
  unfold ClassDeclaration.methodsNamed
  rw [methods_baseClass, List.filter_append, hnone, hdebug, List.nil_append]

/-- The line for a name in the method that lists names. -/
def debugLine (name : String) : String :=
  "\t\t\t\"\\n\\t" ++ name ++ ": \" + get" ++ name ++ "() +\n"

/-- The method that lists names in debugging, each on a line of its own. -/
def debugText (className : String) (names : List String) : String :=
  "\tpublic String toDebugString() \x7b\n\t\treturn \"" ++ className ++ "[\" +\n" ++
    String.join (names.map debugLine) ++ "\t\t\t\"]\";\n\t\x7d\n"

theorem intercalate_lines (first last : String) (parts : List String) :
    String.intercalate " +\n\t\t\t" (first :: parts ++ [last]) =
      first ++ " +\n" ++ String.join (parts.map fun part => "\t\t\t" ++ part ++ " +\n") ++
        "\t\t\t" ++ last := by
  induction parts generalizing first with
  | nil =>
    rw [List.map_nil, List.singleton_append, String.intercalate_cons_cons,
      String.intercalate_singleton, ← String.toList_inj]
    simp
  | cons part parts ih =>
    have hrest := ih part
    rw [List.cons_append] at hrest
    rw [List.cons_append, List.cons_append, String.intercalate_cons_cons, hrest, List.map_cons,
      String.join_cons, ← String.toList_inj]
    simp

theorem render_shown (name : String) :
    "\t\t\t" ++ (Expr.joined .concatSpaced
      [.text ("\\n\\t" ++ name ++ ": "), valueOf name]).render ++ " +\n" = debugLine name := by
  simp only [valueOf, getterName, Expr.render, renderAll, Operator.glue, debugLine,
    String.intercalate_cons_cons, String.intercalate_singleton]
  rw [← String.toList_inj]
  simp

theorem render_debugMethod (s : Scaffold) :
    s.debugMethod.render = debugText s.className s.shown.names := by
  have hlines (parts : List Expr) :
      (Expr.joined .concatLines (s.opening :: parts ++ [closing])).render =
        s.opening.render ++ " +\n" ++
          String.join (parts.map fun part => "\t\t\t" ++ part.render ++ " +\n") ++
            "\t\t\t" ++ closing.render := by
    have hjoined := intercalate_lines s.opening.render closing.render (parts.map Expr.render)
    rw [List.map_map] at hjoined
    rw [Expr.render, renderAll_eq_map, List.map_append, List.map_cons]
    exact hjoined
  have htext : (TypeUse.of ⟨"String"⟩).render = "String" := by decide
  unfold debugMethod textMethod debugText
  rw [Method.render_of_not_isCompact rfl]
  simp only [Option.toList, List.map_nil, List.map_cons, renderWords, Statement.render, htext,
    List.singleton_append, hlines, List.map_map, Function.comp_def, render_shown]
  simp only [opening, closing, Expr.render]
  rw [← String.toList_inj]
  simp

/-- In the text of the base class stands the method that lists the names. -/
theorem occurs_debugText (s : Scaffold) (header? : Option String) :
    Occurs (debugText s.className s.shown.names) (s.artifact header? .base).contents := by
  have hmem : s.debugMethod ∈ s.baseClass.methods := by
    rw [methods_baseClass]
    exact List.mem_append_right _ List.mem_cons_self
  have hmember := ClassDeclaration.mem_methods_iff.mp hmem
  have hclass := (occurs_member hmember).trans (s.occurs_artifact header? .base)
  rw [← s.render_debugMethod]
  exact hclass

/-- The base class has one method for debugging, which lists the names that the entities on a path
show, each once and in ascending order. -/
structure ListsNames (s : Scaffold) (header? : Option String) (path : List Entity) : Prop where
  mem_iff : ∀ name, name ∈ s.shown.names ↔ ∃ e ∈ path, e.Shows name
  ascending : s.shown.names.Pairwise (· < ·)
  methods_eq : (s.baseClass.methodsNamed "toDebugString").map (·.render) =
    [debugText s.className s.shown.names]
  occurs : Occurs (debugText s.className s.shown.names) (s.artifact header? .base).contents

theorem listsNames_onPath (h : Hierarchy) (p : Placed) (header? : Option String) :
    (onPath h p).ListsNames header? p.path where
  mem_iff _ := mem_namesOn_iff
  ascending := (namesOn p.path).sorted
  methods_eq := by rw [methodsNamed_baseClass, List.map_singleton, render_debugMethod]
  occurs := occurs_debugText _ header?

end Scaffold

end EntityScaffold
