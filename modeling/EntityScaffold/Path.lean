import EntityScaffold.Text.Pieces

/-!
# Paths

A `Path` is kept as it was written, because messages and logs print it that way. Its pieces are
what stands between slashes; empty pieces and `.` carry no meaning, except that a leading empty
piece makes the path absolute and a leading `.` is a component of its own.

`parent?` drops the last component together with everything meaningless after it and before it,
and leaves the rest as written. It shortens the text (`length_parent?_lt`), which is why
`ancestors` ends.
-/

namespace EntityScaffold

open Text

/-- A path as written. -/
structure Path where
  text : String
  deriving DecidableEq, Repr

namespace Path

/-- The pieces between the slashes. -/
def pieces (p : Path) : List (List Char) :=
  split '/' p.text.toList

/-- The path with the given pieces. -/
def ofPieces (ps : List (List Char)) : Path :=
  ⟨String.ofList (join '/' ps)⟩

/-- Whether the path starts at the root. -/
def isAbsolute (p : Path) : Bool :=
  p.text.toList.head? == some '/'

/-- Whether the path is written with a slash at its end. -/
def endsWithSlash (p : Path) : Bool :=
  p.text.toList.getLast? == some '/'

/-- `q` taken from `p`: `q` itself if it is absolute, else both with one slash between them. An
empty `q` leaves a slash at the end. -/
def join (p q : Path) : Path :=
  if q.isAbsolute || p.text.isEmpty then q
  else if p.endsWithSlash then ⟨p.text ++ q.text⟩
  else ⟨p.text ++ "/" ++ q.text⟩

/-- A piece that adds no component: an empty one or a `.`. -/
def isIdle (piece : List Char) : Bool :=
  piece.isEmpty || piece == ['.']

/-- The pieces without the idle ones at the end. -/
def trimIdle (ps : List (List Char)) : List (List Char) :=
  (ps.reverse.dropWhile isIdle).reverse

/-- The path without its last component. The root and the empty path have no parent; the parent of
a single relative component is the empty path. -/
def parent? (p : Path) : Option Path :=
  match p.pieces with
  | [] => none
  | first :: rest =>
    let body := trimIdle rest
    if body.isEmpty then
      if first.isEmpty then none else some ⟨""⟩
    else
      let above := trimIdle body.dropLast
      if above.isEmpty && first.isEmpty then some ⟨"/"⟩ else some (ofPieces (first :: above))

/-- The last component, unless it is the root, a `.` or a `..`. -/
def fileName? (p : Path) : Option String :=
  match p.pieces with
  | [] => none
  | first :: rest =>
    match (trimIdle rest).getLast? with
    | some last => if last == ['.', '.'] then none else some (String.ofList last)
    | none =>
      if isIdle first || first == ['.', '.'] then none else some (String.ofList first)

/-- The components other than the root and `.`, in order. -/
def names (p : Path) : List String :=
  (p.pieces.filter fun piece => !isIdle piece).map String.ofList

/-- The path taken from the working directory, without `.` components and repeated slashes. Two
slashes at the start are kept when they are exactly two, and so is a slash at the end. The empty
path has no absolute form. -/
def absolute? (workingDirectory p : Path) : Option Path :=
  if p.text.isEmpty then none
  else
    let start :=
      if !p.isAbsolute then workingDirectory
      else if "//".toList.isPrefixOf p.text.toList && !"///".toList.isPrefixOf p.text.toList then
        ⟨"//"⟩
      else ⟨"/"⟩
    let whole := p.names.foldl (fun path name => path.join ⟨name⟩) start
    some (if p.endsWithSlash then whole.join ⟨""⟩ else whole)

/-! ## Ancestors -/

theorem length_join_append_lt (first : List Char) (above : List (List Char))
    {more : List (List Char)} (h : more ≠ []) :
    (Text.join '/' (first :: above)).length <
      (Text.join '/' (first :: (above ++ more))).length := by
  induction above generalizing first with
  | nil =>
    rw [List.nil_append, join_cons '/' first h]
    simp [Text.join]
  | cons second above ih =>
    rw [List.cons_append, join_cons '/' first (List.cons_ne_nil _ _),
      join_cons '/' first (List.cons_ne_nil _ _)]
    have := ih second
    simp only [List.length_append, List.length_cons]
    omega

/-- The idle pieces at the end are all that trimming takes away. -/
theorem exists_trimIdle_append (ps : List (List Char)) : ∃ idle, ps = trimIdle ps ++ idle := by
  refine ⟨(ps.reverse.takeWhile isIdle).reverse, ?_⟩
  unfold trimIdle
  rw [← List.reverse_append, List.takeWhile_append_dropWhile, List.reverse_reverse]

/-- Pieces that do not all mean nothing hold more than the slash before them. -/
theorem one_lt_length_of_trimIdle {rest : List (List Char)} (h : trimIdle rest ≠ []) :
    1 < (Text.join '/' ([] :: rest)).length := by
  cases rest with
  | nil => exact absurd rfl h
  | cons piece more =>
    cases more with
    | cons next more =>
      simp only [Text.join, List.length_append, List.length_cons]
      omega
    | nil =>
      cases piece with
      | nil => exact absurd (by simp [trimIdle, isIdle]) h
      | cons c cs => simp [Text.join]

/-- Taking the parent shortens the text. -/
theorem length_parent?_lt {p q : Path} (h : p.parent? = some q) :
    q.text.length < p.text.length := by
  have hp : Text.join '/' p.pieces = p.text.toList := join_split '/' p.text.toList
  unfold parent? at h
  cases hps : p.pieces with
  | nil => simp [hps] at h
  | cons first rest =>
    simp only [hps] at h
    rw [hps] at hp
    rw [← String.length_toList, ← String.length_toList, ← hp]
    obtain ⟨idle, hrest⟩ := exists_trimIdle_append rest
    split at h
    · next hbody =>
      split at h
      · simp at h
      · next hfirst =>
        simp only [Option.some.injEq] at h
        subst h
        cases first with
        | nil => simp at hfirst
        | cons c cs => cases rest <;> simp [Text.join]
    · next hbody =>
      have hne : trimIdle rest ≠ [] := by simpa using hbody
      obtain ⟨idle', hbody'⟩ := exists_trimIdle_append (trimIdle rest).dropLast
      have hsplit : rest = trimIdle (trimIdle rest).dropLast ++
          (idle' ++ ([(trimIdle rest).getLast hne] ++ idle)) := by
        conv => lhs; rw [hrest, ← List.dropLast_concat_getLast hne, hbody']
        simp
      have hmore : idle' ++ ([(trimIdle rest).getLast hne] ++ idle) ≠ [] := by simp
      split at h
      · next hroot =>
        simp only [Option.some.injEq] at h
        subst h
        have hfirst : first = [] := by
          have := (Bool.and_eq_true_iff.mp hroot).2
          simpa using this
        subst hfirst
        have := one_lt_length_of_trimIdle hne
        simpa using this
      · simp only [Option.some.injEq] at h
        subst h
        have := length_join_append_lt first (trimIdle (trimIdle rest).dropLast) hmore
        rw [← hsplit] at this
        simpa [ofPieces] using this

/-- The path, its parent, the parent of that, and so on. -/
def ancestors (p : Path) : List Path :=
  match _ : p.parent? with
  | some q => p :: q.ancestors
  | none => [p]
termination_by p.text.length
decreasing_by exact length_parent?_lt ‹_›

end Path

end EntityScaffold
