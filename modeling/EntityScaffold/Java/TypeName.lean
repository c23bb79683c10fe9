import EntityScaffold.Text.Case
import EntityScaffold.Text.Pieces

/-!
# Java type names

A `TypeName` is the canonical name of a type: qualified by its package where it has one, bare for
the wrappers of scalars and for arrays. Mapping documents name types loosely; `TypeName.ofToken`
turns such a token into the canonical name, so that the import line (`import?`) and the name
written in code (`simple`) follow from one value.
-/

namespace EntityScaffold.Java

open EntityScaffold.Text

/-- `name` in `package`; the empty package adds nothing. -/
def qualify (package name : String) : String :=
  if package.isEmpty then name else package ++ "." ++ name

/-- The canonical name of a type. -/
structure TypeName where
  qualified : String
  deriving DecidableEq, Repr

namespace TypeName

/-- The package, if the name is qualified: all before the last dot. -/
def package? (t : TypeName) : Option String :=
  (cutLast '.' t.qualified.toList).map fun (before, _) => String.ofList before

/-- The name written in code once the type is imported: all after the last dot. -/
def simple (t : TypeName) : String :=
  match cutLast '.' t.qualified.toList with
  | some (_, after) => String.ofList after
  | none => t.qualified

/-- The name to import, if the type lives in a package. -/
def import? (t : TypeName) : Option String :=
  if '.' ∈ t.qualified.toList then some t.qualified else none

/-- Whether this is the wrapper of truth values. -/
def isBoolean (t : TypeName) : Bool :=
  t.qualified == "Boolean"

/-- The ending of the query method that binds a parameter of this type (`Long`: `setLong`). -/
def setter (t : TypeName) : String :=
  t.simple

/-! ## Canonical names of tokens -/

/-- The wrappers of scalars, which stay unqualified. -/
def wrappers : List String :=
  ["Boolean", "Long", "Integer", "String", "Float", "Double"]

/-- The type of dates, which stands for the two types of the database interface. -/
def date : TypeName :=
  ⟨"java.util.Date"⟩

/-- The type of structured documents, which stands for the large-object markers. -/
def document : TypeName :=
  ⟨"org.dom4j.Document"⟩

/-- The endings of large-object markers. -/
def documentEndings : List String :=
  [".XmlBlobType", ".XmlClobType"]

/-- A date type of the database interface; the time stamp is recognised in any ASCII case. -/
def isDatabaseDate (name : String) : Bool :=
  name == "java.sql.Date" || name.toList.map Char.toLower == "java.sql.timestamp".toList

/-- A marker of a large object that holds a structured document. -/
def isDocumentMarker (name : String) : Bool :=
  documentEndings.any fun ending => ending.toList.isSuffixOf name.toList

/-- The canonical name of a name that is neither in `java.lang` nor an array: wrappers and
qualified names stay, dates and documents are replaced, and any other bare name is placed in the
package of its document. -/
def ofName (name : String) (package : Option String) : TypeName :=
  if name ∈ wrappers then ⟨name⟩
  else if isDatabaseDate name then date
  else if isDocumentMarker name then document
  else if '.' ∈ name.toList then ⟨name⟩
  else
    match package with
    | some p => ⟨qualify p name⟩
    | none => ⟨name⟩

/-- The canonical name of a type token of a mapping document that declares `package`. Types of
`java.lang` lose their package, byte arrays stay, and a bare token is capitalised first. -/
def ofToken (token : String) (package : Option String) : TypeName :=
  match "java.lang.".toList.isPrefixOf? token.toList with
  | some rest => ⟨String.ofList rest⟩
  | none =>
    if token == "byte[]" then ⟨token⟩
    else ofName (if '.' ∈ token.toList then token else capitalize token) package

/-! ## The parts of a name -/

theorem package?_isSome_iff (t : TypeName) : t.package?.isSome ↔ '.' ∈ t.qualified.toList := by
  unfold package?
  cases h : cutLast '.' t.qualified.toList with
  | none => simpa using cutLast_eq_none_iff.mp h
  | some p =>
    obtain ⟨b, a⟩ := p
    rw [(cutLast_eq_some_iff.mp h).1]
    simp

/-- The simple name holds no dot. -/
theorem dot_not_mem_simple (t : TypeName) : '.' ∉ t.simple.toList := by
  unfold simple
  cases h : cutLast '.' t.qualified.toList with
  | none => exact cutLast_eq_none_iff.mp h
  | some p =>
    obtain ⟨b, a⟩ := p
    simpa using (cutLast_eq_some_iff.mp h).2

end TypeName

end EntityScaffold.Java
