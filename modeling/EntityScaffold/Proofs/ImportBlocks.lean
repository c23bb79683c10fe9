import Mathlib.Data.List.Sort
import EntityScaffold.Proofs.MentionedTypes

/-!
# Blocks of imports

The names that a file imports are asked for one by one, and some of them more than once
(`ImportRequest`). Those that lie in a package are written, each once and in ascending order, with a
blank line wherever the top-level package changes.

Nothing but the order keeps the names of a package together. It is enough: they are the names that
start with the package and a dot, and whatever stands between two texts with one start has this
start as well (`Text.isPrefix_of_between`). So there is one group of lines for each top-level
package, even where `a`, `a-b` and `ab` are next to each other (`import_block_in_groups`).
-/

namespace EntityScaffold

namespace Text

/-! ## Order of texts -/

/-- Between two texts with one start there are only texts with this start. -/
theorem isPrefix_of_between {start a b c : List Char} (ha : start <+: a) (hc : start <+: c)
    (hab : a < b) (hbc : b < c) : start <+: b := by
  induction start generalizing a b c with
  | nil => exact List.nil_prefix
  | cons first start ih =>
    obtain ⟨a, rfl⟩ := ha
    obtain ⟨c, rfl⟩ := hc
    cases b with
    | nil => exact absurd hab (List.not_lt_nil _)
    | cons d b =>
      rw [List.cons_append, List.cons_lt_cons_iff] at hab hbc
      obtain ⟨rfl, hab, hbc⟩ : first = d ∧ start ++ a < b ∧ b < start ++ c := by
        rcases hab with hlt | ⟨rfl, hab⟩
        · rcases hbc with hlt' | ⟨rfl, -⟩
          · exact absurd hlt' (Char.lt_asymm hlt)
          · exact absurd hlt (Char.lt_irrefl _)
        · rcases hbc with hlt | ⟨-, hbc⟩
          · exact absurd hlt (Char.lt_irrefl _)
          · exact ⟨rfl, hab, hbc⟩
      rw [List.cons_prefix_cons]
      exact ⟨rfl, ih (List.prefix_append start a) (List.prefix_append start c) hab hbc⟩

/-- A set of names is determined by its members. -/
theorem NameSet.ext_names {s t : NameSet} (h : ∀ name, name ∈ s.names ↔ name ∈ t.names) :
    s = t := by
  obtain ⟨names, hsorted⟩ := s
  obtain ⟨others, hothers⟩ := t
  obtain rfl : names = others := hsorted.eq_of_mem_iff hothers h
  rfl

end Text

namespace Java

open Text

/-! ## Top-level packages -/

/-- The start that a name has in common with all names of its top-level package. -/
theorem isPrefix_topPackage {name : String} (hdot : '.' ∈ name.toList) :
    (topPackage name).toList ++ ['.'] <+: name.toList := by
  obtain ⟨rest, hrest⟩ := exists_eq_takeWhile_append hdot
  refine ⟨rest, ?_⟩
  rw [topPackage, String.toList_ofList, List.append_assoc, List.singleton_append, ← hrest]

theorem topPackage_of_isPrefix {name other : String}
    (h : (topPackage name).toList ++ ['.'] <+: other.toList) :
    topPackage other = topPackage name := by
  obtain ⟨rest, hrest⟩ := h
  have hfree : '.' ∉ (topPackage name).toList := by
    rw [topPackage, String.toList_ofList]
    exact not_mem_takeWhile_ne '.' name.toList
  have hbefore : ∀ c ∈ (topPackage name).toList, (c != '.') = true := fun c hc =>
    bne_iff_ne.mpr fun heq => hfree (heq ▸ hc)
  rw [← String.toList_inj, topPackage, String.toList_ofList, ← hrest, List.append_assoc,
    List.takeWhile_append_of_pos hbefore, List.singleton_append,
    List.takeWhile_cons_of_neg (by decide), List.append_nil]

/-- Between two names of one top-level package there are only names of this package. -/
theorem topPackage_eq_of_between {a b c : String} (ha : '.' ∈ a.toList) (hc : '.' ∈ c.toList)
    (hab : a < b) (hbc : b < c) (htop : topPackage a = topPackage c) :
    topPackage b = topPackage a := by
  refine topPackage_of_isPrefix (isPrefix_of_between (isPrefix_topPackage ha) ?_ hab hbc)
  rw [htop]
  exact isPrefix_topPackage hc

/-! ## Lines -/

/-- What stands between the lines of two names. -/
def gap (name next : String) : String :=
  if topPackage name = topPackage next then "" else "\n"

theorem renderImports_cons (last? : Option String) (name : String) (names : List String) :
    renderImports last? (name :: names) =
      (if last?.any (· != topPackage name) then "\n" else "") ++ importLine name ++
        renderImports (some (topPackage name)) names := by
  rw [renderImports, importLine, ← String.toList_inj]
  simp

/-- A line looks back to the one before it for the gap only. -/
theorem renderImports_some_cons (name next : String) (names : List String) :
    renderImports (some (topPackage name)) (next :: names) =
      gap name next ++ renderImports none (next :: names) := by
  rw [renderImports_cons, renderImports_cons, gap]
  by_cases h : topPackage name = topPackage next <;> simp [h, String.append_assoc]

theorem renderImports_none_cons_cons (name next : String) (names : List String) :
    renderImports none (name :: next :: names) =
      importLine name ++ (gap name next ++ renderImports none (next :: names)) := by
  rw [renderImports_cons, renderImports_some_cons]
  simp

/-- Wherever the block is cut between two names, there is the gap between them. -/
theorem renderImports_append_cons_cons (before : List String) (name next : String)
    (after : List String) :
    renderImports none (before ++ name :: next :: after) =
      renderImports none (before ++ [name]) ++ gap name next ++
        renderImports none (next :: after) := by
  have hblock (last? : Option String) : renderImports last? (before ++ name :: next :: after) =
      renderImports last? (before ++ [name]) ++ gap name next ++
        renderImports none (next :: after) := by
    induction before generalizing last? with
    | nil =>
      have hend : renderImports (some (topPackage name)) [] = "" := rfl
      rw [List.nil_append, List.nil_append, renderImports_cons, renderImports_some_cons,
        renderImports_cons last? name [], hend, String.append_empty, String.append_assoc]
      simp only [String.append_assoc]
    | cons first before ih =>
      rw [List.cons_append, List.cons_append, renderImports_cons, renderImports_cons, ih]
      simp only [String.append_assoc]
  exact hblock none

/-! ## Groups of lines -/

/-- Some names of one top-level package, at least one. -/
structure ImportGroup where
  package : String
  names : List String
  names_ne_nil : names ≠ []
  topPackage_eq : ∀ name ∈ names, topPackage name = package

namespace ImportGroup

/-- The lines of a group. -/
def render (g : ImportGroup) : String :=
  String.join (g.names.map importLine)

/-- The group of a single name. -/
def single (name : String) : ImportGroup where
  package := topPackage name
  names := [name]
  names_ne_nil := List.cons_ne_nil name []
  topPackage_eq other hother := by rw [List.mem_singleton.mp hother]

/-- The group with one more name of its package in front. -/
def cons (name : String) (g : ImportGroup) (h : topPackage name = g.package) : ImportGroup where
  package := g.package
  names := name :: g.names
  names_ne_nil := List.cons_ne_nil name g.names
  topPackage_eq := List.forall_mem_cons.mpr ⟨h, g.topPackage_eq⟩

theorem render_cons (name : String) (g : ImportGroup) (h : topPackage name = g.package) :
    (cons name g h).render = importLine name ++ g.render := by
  unfold render cons
  rw [List.map_cons, String.join_cons]

theorem render_single (name : String) : (single name).render = importLine name := by
  unfold render single
  simp

end ImportGroup

/-- The names in groups, one for each of their top-level packages, and the text of the groups with a
blank line between each two. -/
structure InGroups (names : List String) (groups : List ImportGroup) (text : String) : Prop where
  names_eq : groups.flatMap (·.names) = names
  packages_nodup : (groups.map (·.package)).Nodup
  text_eq : text = String.intercalate "\n" (groups.map (·.render))

section Grouping

variable {name next : String} {names : List String} {groups : List ImportGroup} {text : String}

/-- A top-level package that is left does not come again. -/
theorem InGroups.topPackage_not_mem (h : InGroups (next :: names) groups text)
    (hsorted : (name :: next :: names).Pairwise (· < ·))
    (hdots : ∀ other ∈ name :: next :: names, '.' ∈ other.toList)
    (htop : topPackage name ≠ topPackage next) : topPackage name ∉ groups.map (·.package) := by
  intro hagain
  obtain ⟨later, hlater, hpackage⟩ := List.mem_map.mp hagain
  obtain ⟨last, hlast⟩ := List.exists_mem_of_ne_nil _ later.names_ne_nil
  have hsame : topPackage name = topPackage last :=
    hpackage.symm.trans (later.topPackage_eq last hlast).symm
  have hmem : last ∈ next :: names := by
    rw [← h.names_eq]
    exact List.mem_flatMap.mpr ⟨later, hlater, hlast⟩
  obtain ⟨hfirst, hrest⟩ := List.pairwise_cons.mp hsorted
  obtain ⟨hdot, hdots⟩ := List.forall_mem_cons.mp hdots
  rcases List.mem_cons.mp hmem with rfl | hbehind
  · exact htop hsame
  · have hbetween := topPackage_eq_of_between hdot (hdots last hmem)
      (hfirst next List.mem_cons_self) ((List.pairwise_cons.mp hrest).1 last hbehind) hsame
    exact htop hbetween.symm

/-- The first group goes on with one more name in front. -/
theorem InGroups.cons_same {g : ImportGroup}
    (h : InGroups (next :: names) (g :: groups) (renderImports none (next :: names)))
    (htop : topPackage name = topPackage next) (hpackage : topPackage name = g.package) :
    InGroups (name :: next :: names) (.cons name g hpackage :: groups)
      (renderImports none (name :: next :: names)) where
  names_eq := by
    rw [← h.names_eq]
    rfl
  packages_nodup := h.packages_nodup
  text_eq := by
    have htext := h.text_eq
    rw [List.map_cons] at htext
    rw [renderImports_none_cons_cons, gap, if_pos htop, htext, List.map_cons,
      ImportGroup.render_cons, String.intercalate_cons_append, String.empty_append]

/-- A new group begins. -/
theorem InGroups.cons_other {g : ImportGroup}
    (h : InGroups (next :: names) (g :: groups) (renderImports none (next :: names)))
    (htop : topPackage name ≠ topPackage next)
    (hnew : topPackage name ∉ (g :: groups).map (·.package)) :
    InGroups (name :: next :: names) (.single name :: g :: groups)
      (renderImports none (name :: next :: names)) where
  names_eq := by
    rw [List.flatMap_cons, h.names_eq]
    rfl
  packages_nodup := List.nodup_cons.mpr ⟨hnew, h.packages_nodup⟩
  text_eq := by
    have htext := h.text_eq
    rw [List.map_cons] at htext
    rw [renderImports_none_cons_cons, gap, if_neg htop, htext, List.map_cons, List.map_cons,
      ImportGroup.render_single, String.intercalate_cons_cons, String.append_assoc]

theorem inGroups_singleton (name : String) :
    InGroups [name] [.single name] (renderImports none [name]) where
  names_eq := rfl
  packages_nodup := List.nodup_singleton _
  text_eq := by
    rw [renderImports_cons, List.map_singleton, String.intercalate_singleton,
      ImportGroup.render_single]
    simp [renderImports]

/-- The first name of the first group comes first of all. -/
theorem InGroups.exists_eq_cons {g : ImportGroup} (h : InGroups names (g :: groups) text) :
    ∃ next others, names = next :: others ∧ topPackage next = g.package := by
  obtain ⟨next, others, hg⟩ := List.exists_cons_of_ne_nil g.names_ne_nil
  refine ⟨next, others ++ groups.flatMap (·.names), ?_, g.topPackage_eq next ?_⟩
  · rw [← h.names_eq, List.flatMap_cons, hg, List.cons_append]
  · rw [hg]
    exact List.mem_cons_self

/-- Ascending names that lie in packages are written in groups. -/
theorem exists_inGroups (hsorted : names.Pairwise (· < ·))
    (hdots : ∀ name ∈ names, '.' ∈ name.toList) :
    ∃ groups, InGroups names groups (renderImports none names) := by
  induction names with
  | nil => exact ⟨[], rfl, List.nodup_nil, rfl⟩
  | cons name names ih =>
    obtain ⟨groups, h⟩ := ih hsorted.of_cons fun other hother =>
      hdots other (List.mem_cons_of_mem name hother)
    cases groups with
    | nil =>
      obtain rfl : [] = names := h.names_eq
      exact ⟨_, inGroups_singleton name⟩
    | cons g groups =>
      obtain ⟨next, others, rfl, hnext⟩ := h.exists_eq_cons
      by_cases htop : topPackage name = topPackage next
      · exact ⟨_, h.cons_same htop (htop.trans hnext)⟩
      · exact ⟨_, h.cons_other htop (h.topPackage_not_mem hsorted hdots htop)⟩

end Grouping

/-! ## The block -/

/-- The names that are written, and their block of lines. -/
structure IsImportBlock (requests : List ImportRequest) (names : List String) (text : String) :
    Prop where
  /-- There is a line for each qualified name that is asked for, and for no other name. -/
  mem_iff : ∀ name, name ∈ names ↔
    '.' ∈ name.toList ∧ ∃ request ∈ requests, request.qualified = name
  ascending : names.Pairwise (· < ·)
  /-- Between two lines there is a blank line if the top-level package changes, and nothing if it
  does not. -/
  gaps : ∀ before name next after, names = before ++ name :: next :: after →
    text = renderImports none (before ++ [name]) ++ gap name next ++
      renderImports none (next :: after)
  /-- The lines of a top-level package are not parted by others. -/
  grouped : ∃ groups, InGroups names groups text

/-- The requests of a file come to the types that its code mentions. -/
theorem imports_eq_importsAfter_mentioned (s : Scaffold) (kind : ArtifactKind) :
    (s.sourceFile kind).imports =
      importsAfter ((s.sourceFile kind).declaration.mentioned.map .type) := by
  refine NameSet.ext_names fun name => ?_
  rw [Scaffold.mem_imports_iff_mentioned, mem_importsAfter]
  constructor
  · rintro ⟨t, ht, himport⟩
    obtain ⟨hpackage, rfl⟩ := TypeName.import?_eq_some_iff.mp himport
    exact ⟨t.package?_isSome_iff.mp hpackage, .type t, List.mem_map_of_mem ht, rfl⟩
  · rintro ⟨hdot, request, hrequest, rfl⟩
    obtain ⟨t, ht, rfl⟩ := List.mem_map.mp hrequest
    exact ⟨t, ht, TypeName.import?_eq_some_iff.mpr ⟨t.package?_isSome_iff.mpr hdot, rfl⟩⟩

/-- Whatever is asked for, the imports are written in groups. It makes no difference in which order
and how often something is asked for. What generated files ask for are the types that they
mention. -/
theorem import_block_in_groups (requests : List ImportRequest) :
    IsImportBlock requests (importsAfter requests).names
        (renderImports none (importsAfter requests).names) ∧
      (∀ others : List ImportRequest,
        (∀ name, (∃ request ∈ others, request.qualified = name) ↔
          ∃ request ∈ requests, request.qualified = name) →
        renderImports none (importsAfter others).names =
          renderImports none (importsAfter requests).names) ∧
      ∀ (s : Scaffold) (kind : ArtifactKind), (s.sourceFile kind).imports =
        importsAfter ((s.sourceFile kind).declaration.mentioned.map .type) := by
  refine ⟨⟨fun _ => mem_importsAfter, (importsAfter requests).sorted, ?_, ?_⟩, ?_,
    imports_eq_importsAfter_mentioned⟩
  · intro before name next after hnames
    rw [hnames]
    exact renderImports_append_cons_cons before name next after
  · exact exists_inGroups (importsAfter requests).sorted fun name hname =>
      (mem_importsAfter.mp hname).1
  · intro others hsame
    have hnames : importsAfter others = importsAfter requests := by
      refine NameSet.ext_names fun name => ?_
      rw [mem_importsAfter, mem_importsAfter, hsame]
    rw [hnames]

/-- The names of `a` are not parted by those of `a-b`, although these come first. -/
example : renderImports none (importsAfter [.name "ab.X", .type ⟨"a.Y"⟩, .name "a-b.Z",
    .name "Long", .type ⟨"a.X"⟩, .name "a.Y"]).names =
      "import a-b.Z;\n\nimport a.X;\nimport a.Y;\n\nimport ab.X;\n" := by
  decide +kernel

end Java

end EntityScaffold
