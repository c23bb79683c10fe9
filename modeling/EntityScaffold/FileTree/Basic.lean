/-!
# Trees of files

A `FileTree` says what stands at each location. A location is the list of names that leads there
from the root, so it has one spelling; paths as written are resolved to locations elsewhere. The
root is always a directory.

`find?` is the view of a tree: two trees with the same `find?` are the same file system
(`FileTree.Same`), and a change is described by what it does to `find?` (`find?_put`).
-/

namespace EntityScaffold

/-- The names that lead from the root to a file or directory. -/
abbrev Location := List String

/-- Files are compared by their bytes. -/
instance (priority := high) decidableEqContents : DecidableEq ByteArray :=
  ByteArray.decEq

/-- What stands at a location. -/
inductive Node where
  | file (contents : ByteArray)
  | directory
  deriving DecidableEq

/-- What stands at each location; every location is listed at most once by `put`. -/
structure FileTree where
  entries : List (Location × Node)

namespace FileTree

/-- The tree that holds the root only. -/
def empty : FileTree :=
  ⟨[]⟩

/-- What stands at a location, if anything does. -/
def find? (t : FileTree) (location : Location) : Option Node :=
  if location = [] then some .directory else t.entries.lookup location

/-- The tree with `node` at `location`. -/
def put (t : FileTree) (location : Location) (node : Node) : FileTree :=
  ⟨(location, node) :: t.entries.filter (·.1 != location)⟩

/-- Whether a directory stands at the location. -/
def isDirectoryAt (t : FileTree) (location : Location) : Bool :=
  t.find? location = some .directory

/-- Two trees that hold the same files and directories. -/
def Same (t u : FileTree) : Prop :=
  ∀ location, t.find? location = u.find? location

@[simp]
theorem find?_root (t : FileTree) : t.find? [] = some .directory := rfl

theorem lookup_filter_ne (entries : List (Location × Node)) {location other : Location}
    (h : other ≠ location) :
    (entries.filter (·.1 != location)).lookup other = entries.lookup other := by
  induction entries with
  | nil => rfl
  | cons entry entries ih =>
    obtain ⟨here, node⟩ := entry
    by_cases hl : here = location
    · subst hl
      have : (other == here) = false := by simpa using h
      rw [List.filter_cons_of_neg (by simp), ih, List.lookup_cons, this]
    · rw [List.filter_cons_of_pos (by simpa using hl), List.lookup_cons, List.lookup_cons, ih]

theorem find?_put (t : FileTree) {location : Location} (node : Node) (other : Location)
    (h : location ≠ []) :
    (t.put location node).find? other = if other = location then some node else t.find? other := by
  by_cases he : other = location
  · subst he
    simp [find?, put, h]
  · by_cases hn : other = []
    · simp [hn, Ne.symm h]
    · have hb : (other == location) = false := by simpa using he
      simp only [find?, put, hn, he, if_false, List.lookup_cons, hb]
      exact lookup_filter_ne t.entries he

end FileTree

end EntityScaffold
