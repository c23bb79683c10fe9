import EntityScaffold.Xml.Token

/-!
# Document type declarations

The declaration before the root element. Of everything in it only the entities with a literal value
matter: they are collected in a table (`Entities`), general and parameter entities alike. The
element, attribute list and notation declarations of the internal subset are passed over.
-/

namespace EntityScaffold.Xml

/-- Declared entities with their values, in the order of declaration; the first one of a name
counts. -/
abbrev Entities := List (List Char × List Char)

variable {s : List Char} {α : Type}

/-- Reads an external identifier: one literal after `SYSTEM`, two after `PUBLIC`. -/
def externalId? (s : List Char) : Option (Scan s Unit) :=
  if "SYSTEM".toList.isPrefixOf s then do
    let keyword ← literal? "SYSTEM".toList s
    let gap ← spaces? keyword.rest
    let location ← quoted? gap.rest
    return keyword.andThen (gap.andThen (location.map fun _ => ()))
  else do
    let keyword ← literal? "PUBLIC".toList s
    let gap ← spaces? keyword.rest
    let identifier ← quoted? gap.rest
    let between ← spaces? identifier.rest
    let location ← quoted? between.rest
    return keyword.andThen (gap.andThen (identifier.andThen (between.andThen
      (location.map fun _ => ()))))

/-- Reads an external identifier after `a` if there is one. -/
def optionalExternalId? (a : Scan s Unit) : Option (Scan s Unit) :=
  if "SYSTEM".toList.isPrefixOf a.rest || "PUBLIC".toList.isPrefixOf a.rest then
    (externalId? a.rest).map a.andThen
  else some a

/-- Reads the note that an external entity is not parsed, if it is there after `a`. -/
def optionalUnparsed? (a : Scan s Unit) : Option (Scan s Unit) :=
  if "NDATA".toList.isPrefixOf a.rest then do
    let keyword ← literal? "NDATA".toList a.rest
    let gap ← spaces? keyword.rest
    let name ← name? gap.rest
    return a.andThen (keyword.andThen (gap.andThen (name.map fun _ => ())))
  else some a

/-- Reads the definition of an entity: its value, or an external identifier, which gives none. A
general entity may be marked as not parsed. -/
def entityDefinition? (isGeneral : Bool) (s : List Char) :
    Option (Scan s (Option (List Char))) :=
  match s with
  | '"' :: _ => (quoted? _).map (·.map some)
  | '\'' :: _ => (quoted? _).map (·.map some)
  | _ => do
    let identifier ← externalId? _
    let whole ← if isGeneral then optionalUnparsed? identifier.skipSpaces else some identifier
    return whole.map fun _ => none

/-- Reads an entity declaration; the value is the table entry it makes. -/
def entityDeclaration? (s : List Char) : Option (Scan s Entities) := do
  let keyword ← literal? "<!ENTITY".toList s
  let gap ← spaces? keyword.rest
  let start := keyword.andThen gap
  let isGeneral := start.rest.head? != some '%'
  let start ←
    if isGeneral then some start
    else do
      let sign ← literal? ['%'] start.rest
      let gap ← spaces? sign.rest
      pure (start.andThen (sign.andThen gap))
  let name ← name? start.rest
  let gap ← spaces? name.rest
  let definition ← entityDefinition? isGeneral gap.rest
  let stop ← literal? ['>'] definition.skipSpaces.rest
  let entry :=
    match definition.value with
    | some value => [(name.value, value)]
    | none => []
  return start.andThen (name.andThen (gap.andThen (definition.skipSpaces.andThen
    (stop.map fun _ => entry))))

/-- Whether a declaration starts here that is passed over. -/
def startsIgnoredDeclaration (s : List Char) : Bool :=
  "<!ELEMENT".toList.isPrefixOf s || "<!ATTLIST".toList.isPrefixOf s ||
    "<!NOTATION".toList.isPrefixOf s

/-- Reads one declaration of the internal subset; the value is the table entry it makes, if
any. -/
def declaration? (s : List Char) : Option (Scan s Entities) :=
  if "<!ENTITY".toList.isPrefixOf s then entityDeclaration? s
  else if "<!--".toList.isPrefixOf s then (comment? s).map (·.map fun _ => [])
  else if "<?".toList.isPrefixOf s then (instruction? s).map (·.map fun _ => [])
  else if startsIgnoredDeclaration s then do
    let start ← literal? ['<', '!'] s
    let body ← upTo? ['>'] start
    return body.map fun _ => []
  else none

/-- Reads the rest of an internal subset up to its closing bracket; `a` holds the entities declared
so far. -/
def subset? (a : Scan s Entities) : Option (Scan s Entities) :=
  let b := a.skipSpaces
  if b.rest.head? = some ']' then
    (literal? [']'] b.rest).map fun stop => b.andThen (stop.map fun _ => a.value)
  else
    match declaration? b.rest with
    | some next => subset? (b.andThen (next.map fun entries => a.value ++ entries))
    | none => none
termination_by a.rest.length
decreasing_by exact Nat.lt_of_lt_of_le next.shorter (length_skipSpaces_le a.rest)

/-- Reads a document type declaration; the value is the table of its entities. -/
def documentType? (s : List Char) : Option (Scan s Entities) := do
  let keyword ← literal? "<!DOCTYPE".toList s
  let gap ← spaces? keyword.rest
  let name ← name? gap.rest
  let start := keyword.andThen (gap.andThen (name.map fun _ => ()))
  let head := (← optionalExternalId? start.skipSpaces).skipSpaces
  if head.rest.head? = some '[' then
    let bracket ← literal? ['['] head.rest
    let subset ← subset? (head.andThen (bracket.map fun _ => []))
    let stop ← literal? ['>'] subset.skipSpaces.rest
    return subset.skipSpaces.andThen (stop.map fun _ => subset.value)
  else
    let stop ← literal? ['>'] head.rest
    return head.andThen (stop.map fun _ => [])

end EntityScaffold.Xml
