import EntityScaffold.Text.Blank
import EntityScaffold.Xml.Scan

/-!
# Identifiers of a document type

`identifiers?` finds the public and the system identifier of a document type declaration by looking
for it in the text, without parsing the document: the first `<!DOCTYPE`, up to the first `>` after
it, and in there the first `PUBLIC` with one or two quoted texts after it. A text that is no
document at all may have identifiers, and so may a comment.
-/

namespace EntityScaffold.Schema

open Text Xml

/-- The identifiers of a document type. -/
structure DoctypeIds where
  publicId : String
  systemId? : Option String
  deriving DecidableEq, Repr

/-- The text between two quotes of one kind after optional white space, and what follows it. -/
def quotedId? (s : List Char) : Option (List Char × List Char) :=
  match dropBlanks s with
  | '"' :: body => cutAt ['"'] body
  | '\'' :: body => cutAt ['\''] body
  | _ => none

/-- The identifiers written in a declaration, after `PUBLIC`. -/
def declaredIds? (s : List Char) : Option DoctypeIds :=
  (quotedId? s).map fun (publicId, rest) =>
    ⟨String.ofList publicId, (quotedId? rest).map fun (systemId, _) => String.ofList systemId⟩

/-- The identifiers of the document type that a text declares. -/
def identifiers? (text : List Char) : Option DoctypeIds := do
  let (_, afterStart) ← cutAt "<!DOCTYPE".toList text
  let (declaration, _) ← cutAt ['>'] afterStart
  let (_, ids) ← cutAt "PUBLIC".toList declaration
  declaredIds? ids

end EntityScaffold.Schema
