import EntityScaffold.Xml.Character

/-!
# Scanning a text from its start

A `Scan s α` is a value read at the start of the text `s` together with the rest of the text, which
is shorter than `s`. Whatever reads a text piece after piece therefore ends, because each piece
leaves less to read. The scanners of this module read literals, white space, names and quoted
texts; each gives `none` where the text does not start that way.
-/

namespace EntityScaffold.Xml

/-- A value read at the start of `s`, and what follows it. -/
structure Scan (s : List Char) (α : Type) where
  value : α
  rest : List Char
  shorter : rest.length < s.length

/-- The text without the white space at its start. -/
def skipSpaces (s : List Char) : List Char :=
  s.dropWhile isSpace

theorem length_skipSpaces_le (s : List Char) : (skipSpaces s).length ≤ s.length :=
  (List.dropWhile_suffix _).length_le

/-- Whether the text starts with white space. -/
def startsWithSpace (s : List Char) : Bool :=
  s.head?.any isSpace

namespace Scan

variable {s : List Char} {α β : Type}

/-- The same scan with another value. -/
def map (f : α → β) (a : Scan s α) : Scan s β :=
  ⟨f a.value, a.rest, a.shorter⟩

/-- The scan with the white space after it. -/
def skipSpaces (a : Scan s α) : Scan s α :=
  ⟨a.value, Xml.skipSpaces a.rest, Nat.lt_of_le_of_lt (length_skipSpaces_le _) a.shorter⟩

/-- The value of a second scan of what the first one left. -/
def andThen (a : Scan s α) (b : Scan a.rest β) : Scan s β :=
  ⟨b.value, b.rest, Nat.lt_trans b.shorter a.shorter⟩

end Scan

theorem length_of_isPrefixOf?_eq_some {l s rest : List Char} (h : l.isPrefixOf? s = some rest) :
    l.length + rest.length = s.length := by
  induction l generalizing s with
  | nil =>
    have hrest : s = rest := Option.some.inj h
    rw [hrest, List.length_nil, Nat.zero_add]
  | cons c l ih =>
    cases s with
    | nil => cases h
    | cons d s =>
      change (if c == d then l.isPrefixOf? s else none) = some rest at h
      split at h
      · have := ih h
        simp only [List.length_cons]
        omega
      · simp at h

/-- Reads exactly the given characters; there must be some. -/
def literal? (expected : List Char) (s : List Char) : Option (Scan s Unit) :=
  match h : expected.isPrefixOf? s with
  | some rest =>
    if nonempty : 0 < expected.length then
      some ⟨(), rest, by have := length_of_isPrefixOf?_eq_some h; omega⟩
    else none
  | none => none

/-- Reads one character. -/
def anyOf? (p : Char → Bool) (s : List Char) : Option (Scan s Char) :=
  match s with
  | c :: rest => if p c then some ⟨c, rest, Nat.lt_succ_self _⟩ else none
  | [] => none

/-- Reads white space, of which there must be some. -/
def spaces? (s : List Char) : Option (Scan s Unit) :=
  match s with
  | c :: rest =>
    if isSpace c then
      some ⟨(), skipSpaces rest, Nat.lt_succ_of_le (length_skipSpaces_le rest)⟩
    else none
  | [] => none

/-- Reads a name. -/
def name? (s : List Char) : Option (Scan s (List Char)) :=
  match s with
  | c :: rest =>
    if isNameStart c then
      some ⟨c :: rest.takeWhile isNameChar, rest.dropWhile isNameChar,
        Nat.lt_succ_of_le (List.dropWhile_suffix _).length_le⟩
    else none
  | [] => none

/-- What is left after characters of a class is shorter if there is such a character. -/
theorem length_dropWhile_lt {p : Char → Bool} {s : List Char} (h : s.takeWhile p ≠ []) :
    (s.dropWhile p).length < s.length := by
  have together := congrArg List.length (@List.takeWhile_append_dropWhile _ p s)
  have := List.length_pos_iff.mpr h
  rw [List.length_append] at together
  omega

/-- The text before the first occurrence of `stop`, and what follows that occurrence. -/
def cutAt (stop : List Char) : List Char → Option (List Char × List Char)
  | [] => none
  | c :: cs =>
    match stop.isPrefixOf? (c :: cs) with
    | some rest => some ([], rest)
    | none => (cutAt stop cs).map fun (before, rest) => (c :: before, rest)

theorem length_cutAt_le {stop s before rest : List Char} (h : cutAt stop s = some (before, rest)) :
    rest.length ≤ s.length := by
  induction s generalizing before with
  | nil => simp [cutAt] at h
  | cons c cs ih =>
    unfold cutAt at h
    split at h
    · next r hr =>
      simp only [Option.some.injEq, Prod.mk.injEq] at h
      have := length_of_isPrefixOf?_eq_some hr
      rw [← h.2]
      omega
    · obtain ⟨⟨b, r⟩, hb, e⟩ := Option.map_eq_some_iff.mp h
      simp only [Prod.mk.injEq] at e
      obtain ⟨rfl, rfl⟩ := e
      exact Nat.le_succ_of_le (ih hb)

/-- Reads up to and including the first occurrence of `stop`; the value is what stands before
it. -/
def upTo? {s : List Char} {α : Type} (stop : List Char) (a : Scan s α) :
    Option (Scan s (List Char)) :=
  match h : cutAt stop a.rest with
  | some (before, rest) => some ⟨before, rest, Nat.lt_of_le_of_lt (length_cutAt_le h) a.shorter⟩
  | none => none

/-- Reads a text between two quotes of one kind. -/
def quoted? (s : List Char) : Option (Scan s (List Char)) := do
  let quote ← anyOf? (fun c => c == '"' || c == '\'') s
  upTo? [quote.value] quote

/-! ## Qualified names -/

/-- A name with an optional qualifier before a colon. -/
structure QualifiedName where
  qualifier : List Char
  base : List Char
  deriving DecidableEq

namespace QualifiedName

/-- Splits the characters of a name at its colon. There may be one colon at most, each part starts
as a name does, and only the qualifier may be empty. -/
def ofName? (name : List Char) : Option QualifiedName :=
  let q : QualifiedName :=
    if ':' ∈ name then
      ⟨name.takeWhile (· != ':'), (name.dropWhile (· != ':')).drop 1⟩
    else ⟨[], name⟩
  if q.base.head?.any isNameStart && q.qualifier.head?.all isNameStart && !q.base.contains ':' then
    some q
  else none

end QualifiedName

/-- Reads a qualified name. -/
def qualifiedName? (s : List Char) : Option (Scan s QualifiedName) :=
  if h : s.takeWhile isNameChar ≠ [] then
    (QualifiedName.ofName? (s.takeWhile isNameChar)).map fun name =>
      ⟨name, s.dropWhile isNameChar, length_dropWhile_lt h⟩
  else none

end EntityScaffold.Xml
