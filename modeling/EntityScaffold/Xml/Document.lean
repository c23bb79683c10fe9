import EntityScaffold.Xml.Assembly

/-!
# Documents

A document is an optional declaration, an optional document type declaration and one element, with
comments and instructions around them. `rootElement?` gives the element, or `none` if the text is
not such a document.
-/

namespace EntityScaffold.Xml

variable {s : List Char}

/-- Reads the white space after `a`, of which there must be some unless the declaration ends. -/
def gap? (a : Scan s Unit) : Option (Scan s Unit) :=
  if startsWithSpace a.rest || ['?', '>'].isPrefixOf a.rest then some a.skipSpaces else none

/-- Reads a part of the declaration that starts with `keyword`. -/
def part? (keyword : String) (a : Scan s Unit) : Option (Scan s Unit) :=
  if keyword.toList.isPrefixOf a.rest then
    (attribute? a.rest).map fun part => a.andThen (part.map fun _ => ())
  else none

/-- Reads the declaration of a document: the version, then the encoding and whether the document
stands alone, if they are there. -/
def xmlDeclaration? (s : List Char) : Option (Scan s Unit) := do
  let start ← literal? "<?xml ".toList s
  let version ← gap? (← part? "version" start.skipSpaces)
  let encoding ←
    match part? "encoding" version with
    | some encoding => gap? encoding
    | none => some version
  let standalone := (part? "standalone" encoding).getD encoding
  let stop ← literal? ['?', '>'] standalone.skipSpaces.rest
  return standalone.skipSpaces.andThen stop

/-- The text without a byte order mark at its start. -/
def skipMark (s : List Char) : List Char :=
  match s with
  | c :: rest => if c = Char.ofNat 0xFEFF then rest else s
  | [] => []

/-- The text after the declaration of the document, if it starts with one. -/
def skipDeclaration? (s : List Char) : Option (List Char) :=
  if "<?xml ".toList.isPrefixOf s then (xmlDeclaration? s).map (·.rest) else some s

/-- The entities of the document type declaration, if the text starts with one, and the text after
it. -/
def entities? (s : List Char) : Option (Entities × List Char) :=
  if "<!DOCTYPE".toList.isPrefixOf s then do
    let declaration ← documentType? s
    let rest ← skipMisc? declaration.rest
    return (declaration.value, rest)
  else some ([], s)

/-- The root element of a document. -/
def rootElement? (text : String) : Option Element := do
  let start ← skipDeclaration? (skipMark text.toList)
  let (entities, body) ← entities? (← skipMisc? start)
  let (tokens, rest) ← element? body
  let b ← assemble? entities maxDepth false tokens {}
  let rest ← skipMisc? rest
  if rest.isEmpty && b.opened.isEmpty then b.complete.getLast? else none

end EntityScaffold.Xml
