import EntityScaffold.Text.Alphanumeric
import EntityScaffold.Text.Case

/-!
# Names of parameters

An accessor name comes from an attribute of a mapping document and may hold any character. A
parameter is named after it: only characters that may stand in an identifier are kept, the first
is put in lower case, and a reserved word gets a suffix.
-/

namespace EntityScaffold.Java

open EntityScaffold.Text

/-- The words that cannot name a parameter. -/
def reservedWords : List String :=
  ["abstract", "assert", "boolean", "break", "byte", "case", "catch", "char", "class", "const",
    "continue", "default", "do", "double", "else", "enum", "extends", "false", "final", "finally",
    "float", "for", "goto", "if", "implements", "import", "instanceof", "int", "interface",
    "long", "native", "new", "null", "package", "private", "protected", "public", "return",
    "short", "static", "strictfp", "super", "switch", "synchronized", "this", "throw", "throws",
    "transient", "true", "try", "void", "volatile", "while"]

/-- A character kept in the name of a parameter. -/
def isIdentifierPart (c : Char) : Bool :=
  isAlphanumeric c || c == '_' || c == '$'

/-- The name of a parameter or a local variable that stands for the accessor `name`. -/
def parameterName (name : String) : String :=
  let bare := decapitalize (String.ofList (name.toList.filter isIdentifierPart))
  if bare ∈ reservedWords then bare ++ "Value" else bare

end EntityScaffold.Java
