import EntityScaffold.Xml.Scan

/-!
# References

Text and attribute values are sequences of pieces: characters as written, characters given by a
reference (`&lt;`, `&#65;`), and references to declared entities. `pieces?` takes a text apart; it
fails where an ampersand starts no well-formed reference.
-/

namespace EntityScaffold.Xml

/-- A part of a text. -/
inductive Piece where
  | literal (c : Char)
  | referred (c : Char)
  | entity (name : List Char)
  deriving DecidableEq

/-- The value of a digit in a base up to sixteen. -/
def digitValue (c : Char) : Nat :=
  if c.isDigit then c.toNat - '0'.toNat
  else if 'a' ≤ c ∧ c ≤ 'f' then c.toNat - 'a'.toNat + 10
  else c.toNat - 'A'.toNat + 10

/-- A digit of base sixteen. -/
def isHexDigit (c : Char) : Bool :=
  c.isDigit || ('a' ≤ c && c ≤ 'f') || ('A' ≤ c && c ≤ 'F')

/-- The character with the given digits as its number. There must be a digit, and the number must
fit into 32 bits; a number that is no character stands for U+FFFD. -/
def characterOf? (base : Nat) (digits : List Char) : Option Char :=
  let code := digits.foldl (fun n d => n * base + digitValue d) 0
  if digits.isEmpty || code > 0xFFFFFFFF then none
  else
    let c := if code.isValidChar then Char.ofNat code else Char.ofNat 0xFFFD
    if isAllowed c then some c else none

/-- The characters that have a name in every document. -/
def namedCharacter? (name : List Char) : Option Char :=
  [("quot", '"'), ("amp", '&'), ("apos", '\''), ("lt", '<'), ("gt", '>')].lookup
    (String.ofList name)

/-- Reads the number of a character reference and the semicolon after it. -/
def number? (base : Nat) (isDigit : Char → Bool) (s : List Char) : Option (Scan s Char) :=
  match characterOf? base (s.takeWhile isDigit), literal? [';'] (s.dropWhile isDigit) with
  | some c, some stop =>
    some ⟨c, stop.rest, Nat.lt_of_lt_of_le stop.shorter (List.dropWhile_suffix _).length_le⟩
  | _, _ => none

/-- Reads a reference. A number is in base sixteen after `&#x` and in base ten after `&#`. -/
def reference? (s : List Char) : Option (Scan s Piece) :=
  match s with
  | '&' :: '#' :: 'x' :: _ => do
    let start ← literal? ['&', '#', 'x'] _
    let number ← number? 16 isHexDigit start.rest
    return start.andThen (number.map .referred)
  | '&' :: '#' :: _ => do
    let start ← literal? ['&', '#'] _
    let number ← number? 10 Char.isDigit start.rest
    return start.andThen (number.map .referred)
  | _ => do
    let start ← literal? ['&'] _
    let name ← name? start.rest
    let stop ← literal? [';'] name.rest
    let piece :=
      match namedCharacter? name.value with
      | some c => .referred c
      | none => .entity name.value
    return start.andThen (name.andThen (stop.map fun _ => piece))

/-- The pieces of a text. -/
def pieces? : (s : List Char) → Option (List Piece)
  | [] => some []
  | c :: cs =>
    if c = '&' then
      match reference? (c :: cs) with
      | none => none
      | some r => (pieces? r.rest).map (r.value :: ·)
    else (pieces? cs).map (.literal c :: ·)
termination_by s => s.length
decreasing_by
  · exact r.shorter
  · exact Nat.lt_succ_self _

end EntityScaffold.Xml
