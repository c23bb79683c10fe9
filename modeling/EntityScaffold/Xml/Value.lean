import EntityScaffold.Xml.DocumentType
import EntityScaffold.Xml.Reference

/-!
# Attribute values

The value of an attribute is what stands between its quotes with references replaced and line
breaks and tabs turned into spaces. An entity is replaced by its own value, read the same way.

Replacement is bounded twice: entities nest at most `maxDepth` deep, and one reference outside any
entity leads to at most `maxNested` further ones. What is left of the second bound (`spare`) is
passed along. Characters given by a reference are kept as they are outside entities; inside one
they are treated like written ones, and a `<` is refused.
-/

namespace EntityScaffold.Xml

/-- How deep entities nest at most. -/
def maxDepth : Nat := 10

/-- How many references one reference outside entities leads to at most. -/
def maxNested : Nat := 255

/-- What becomes of a written character in an attribute value. -/
def normalizeSpace (c : Char) : Char :=
  if c = '\t' ∨ c = '\n' ∨ c = '\r' then ' ' else c

/-- The number of references that may follow one more reference, if one more is allowed. A
reference outside any entity is always allowed and starts the count again. -/
def spend (inEntity : Bool) (spare : Nat) : Option Nat :=
  if !inEntity then some maxNested
  else
    match spare with
    | 0 => none
    | left + 1 => some left

/-- The text of the pieces of a value, where `replace` gives the text of an entity; with it, how
many references are left. -/
def expandPieces (replace : List Char → Nat → Option (List Char × Nat)) (inEntity : Bool) :
    List Piece → Nat → Option (List Char × Nat)
  | [], spare => some ([], spare)
  | .literal '\r' :: .literal '\n' :: pieces, spare =>
    expandPieces replace inEntity (.literal '\n' :: pieces) spare
  | .literal c :: pieces, spare =>
    (expandPieces replace inEntity pieces spare).map fun (text, left) =>
      (normalizeSpace c :: text, left)
  | .referred c :: pieces, spare =>
    if inEntity && c == '<' then none
    else
      (expandPieces replace inEntity pieces spare).map fun (text, left) =>
        ((if inEntity then normalizeSpace c else c) :: text, left)
  | .entity name :: pieces, spare => do
    let granted ← spend inEntity spare
    let (value, left) ← replace name granted
    let (text, left) ← expandPieces replace inEntity pieces left
    return (value ++ text, left)

/-- The value of an attribute, where entities may nest `depth` deep. -/
def expandValue (entities : Entities) : (depth : Nat) → (inEntity : Bool) → List Char → Nat →
    Option (List Char × Nat)
  | 0, inEntity, raw, spare =>
    (pieces? raw).bind fun pieces => expandPieces (fun _ _ => none) inEntity pieces spare
  | depth + 1, inEntity, raw, spare =>
    let replace (name : List Char) (granted : Nat) :=
      (entities.lookup name).bind fun value => expandValue entities depth true value granted
    (pieces? raw).bind fun pieces => expandPieces replace inEntity pieces spare

end EntityScaffold.Xml
