/-!
# Sets of names

A `NameSet` is a set of texts listed in ascending order of code points, each once. The order is
part of the type, so whatever prints a set prints it sorted, and two sets with the same members
are equal.
-/

namespace EntityScaffold.Text

/-- A set of texts in ascending order. -/
structure NameSet where
  names : List String
  sorted : names.Pairwise (· < ·)

namespace NameSet

/-- The set without members. -/
def empty : NameSet :=
  ⟨[], .nil⟩

/-- The ascending list with one more text, at its place. -/
def place (name : String) : List String → List String
  | [] => [name]
  | first :: rest =>
    if name < first then name :: first :: rest
    else if name = first then first :: rest
    else first :: place name rest

theorem mem_place {name other : String} {names : List String} :
    other ∈ place name names ↔ other = name ∨ other ∈ names := by
  induction names with
  | nil => simp [place]
  | cons first rest ih =>
    unfold place
    split
    · simp
    · split
      · next h => subst h; simp
      · simp only [List.mem_cons, ih]
        constructor
        · rintro (h | h | h) <;> simp [h]
        · rintro (h | h | h) <;> simp [h]

theorem sorted_place (name : String) {names : List String} (h : names.Pairwise (· < ·)) :
    (place name names).Pairwise (· < ·) := by
  induction names with
  | nil => simp [place]
  | cons first rest ih =>
    obtain ⟨hfirst, hrest⟩ := List.pairwise_cons.mp h
    unfold place
    split
    · next hlt =>
      refine List.pairwise_cons.mpr ⟨fun other ho => ?_, h⟩
      rcases List.mem_cons.mp ho with rfl | ho
      · exact hlt
      · exact String.lt_trans hlt (hfirst other ho)
    · split
      · exact h
      · next hnot hne =>
        refine List.pairwise_cons.mpr ⟨fun other ho => ?_, ih hrest⟩
        rcases mem_place.mp ho with rfl | ho
        · exact Decidable.byContradiction fun hn =>
            hne (String.le_antisymm (String.not_lt.mp hn) (String.not_lt.mp hnot))
        · exact hfirst other ho

/-- The set with one more member. -/
def insert (s : NameSet) (name : String) : NameSet :=
  ⟨place name s.names, sorted_place name s.sorted⟩

/-- The set with more members. -/
def insertAll (s : NameSet) (names : List String) : NameSet :=
  names.foldl insert s

/-- Whether a text is a member. -/
def contains (s : NameSet) (name : String) : Bool :=
  s.names.contains name

theorem mem_insert {s : NameSet} {name other : String} :
    other ∈ (s.insert name).names ↔ other = name ∨ other ∈ s.names :=
  mem_place

theorem mem_insertAll {s : NameSet} {names : List String} {other : String} :
    other ∈ (s.insertAll names).names ↔ other ∈ names ∨ other ∈ s.names := by
  unfold insertAll
  induction names generalizing s with
  | nil => simp
  | cons name names ih =>
    rw [List.foldl_cons, ih, mem_insert, List.mem_cons]
    constructor
    · rintro (h | h | h) <;> simp [h]
    · rintro ((h | h) | h) <;> simp [h]

end NameSet

end EntityScaffold.Text
