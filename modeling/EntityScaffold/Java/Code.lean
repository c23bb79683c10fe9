import EntityScaffold.Java.Import

/-!
# Generated code as data

The classes that are generated, before they are text: expressions, statements, members and classes
of the small part of the language that they use. Types are mentioned by their canonical names
(`TypeUse`), although they are written by their simple names. What a file imports is not read off
its code: it comes with a list of requests of its own (`SourceFile.requests`).
-/

namespace EntityScaffold.Java

open Text (NameSet)

/-- A type as code mentions it. -/
inductive TypeUse where
  /-- A type written by its full name. -/
  | full (name : String)
  /-- A type written by its simple name, with type arguments. -/
  | named (type : TypeName) (arguments : List TypeName)
  deriving DecidableEq, Repr

namespace TypeUse

/-- A type without type arguments. -/
def of (type : TypeName) : TypeUse :=
  named type []

/-- The types mentioned by their simple names. -/
def mentioned : TypeUse → List TypeName
  | full _ => []
  | named type arguments => type :: arguments

end TypeUse

/-- How operands are joined. -/
inductive Operator where
  | or
  | xor
  /-- Concatenation without spaces. -/
  | concat
  /-- Concatenation with spaces. -/
  | concatSpaced
  /-- Concatenation with each operand on a line of its own. -/
  | concatLines
  deriving DecidableEq, Repr

/-- An expression. -/
inductive Expr where
  /-- A variable, a field or a constant. -/
  | name (text : String)
  /-- A string, as it stands between the quotes. -/
  | text (chars : String)
  /-- A call of a method of the same object. -/
  | call (method : String) (arguments : List Expr)
  /-- A call of a method of another value. -/
  | invoke (receiver : Expr) (method : String) (arguments : List Expr)
  | new (type : TypeUse)
  | cast (type : TypeUse) (value : Expr)
  | isNull (value : Expr)
  | isInstance (value : Expr) (type : TypeUse)
  | not (value : Expr)
  | classOf (type : TypeUse)
  | joined (operator : Operator) (operands : List Expr)

mutual

/-- The types that an expression mentions. -/
def Expr.mentioned : Expr → List TypeName
  | .name _ | .text _ => []
  | .call _ arguments => mentionedInAll arguments
  | .invoke receiver _ arguments => receiver.mentioned ++ mentionedInAll arguments
  | .new type | .classOf type => type.mentioned
  | .cast type value => type.mentioned ++ value.mentioned
  | .isNull value | .not value => value.mentioned
  | .isInstance value type => value.mentioned ++ type.mentioned
  | .joined _ operands => mentionedInAll operands

/-- The types that several expressions mention. -/
def mentionedInAll : List Expr → List TypeName
  | [] => []
  | e :: es => e.mentioned ++ mentionedInAll es

end

/-- A statement. -/
inductive Statement where
  | run (value : Expr)
  | assign (name : String) (value : Expr)
  /-- Declares a local variable. -/
  | declare (type : TypeUse) (name : String) (value : Expr)
  | giveBack (value : Expr)
  | onlyIf (condition : Expr) (body : Statement)

namespace Statement

/-- The types that a statement mentions. -/
def mentioned : Statement → List TypeName
  | run value | assign _ value | giveBack value => value.mentioned
  | declare type _ value => type.mentioned ++ value.mentioned
  | onlyIf condition body => condition.mentioned ++ body.mentioned

end Statement

/-- An annotation with its argument. -/
structure Annotation where
  type : TypeName
  argument : String
  deriving DecidableEq, Repr

/-- A parameter of a method. -/
structure Parameter where
  type : TypeUse
  name : String
  deriving DecidableEq, Repr

/-- A method, or a constructor if it has no result type. -/
structure Method where
  annotation? : Option Annotation := none
  modifiers : List String := ["public"]
  result? : Option TypeUse
  name : String
  parameters : List Parameter := []
  body : List Statement
  /-- Whether the body is written on the line of the name. -/
  isCompact : Bool := false

namespace Method

/-- The types that a method mentions. -/
def mentioned (m : Method) : List TypeName :=
  m.annotation?.toList.map (·.type) ++ m.result?.toList.flatMap (·.mentioned) ++
    m.parameters.flatMap (·.type.mentioned) ++ m.body.flatMap (·.mentioned)

end Method

/-- A field. -/
structure Field where
  modifiers : List String
  type : TypeUse
  name : String
  value? : Option Expr := none

namespace Field

/-- The types that a field mentions. -/
def mentioned (f : Field) : List TypeName :=
  f.type.mentioned ++ f.value?.toList.flatMap (·.mentioned)

end Field

/-- A member of a class. -/
inductive Member where
  | field (f : Field)
  | method (m : Method)

namespace Member

/-- The types that a member mentions. -/
def mentioned : Member → List TypeName
  | field f => f.mentioned
  | method m => m.mentioned

end Member

/-- A class. Its members come in groups with a blank line between each two. -/
structure ClassDeclaration where
  isAbstract : Bool
  name : String
  superclass? : Option TypeUse
  interfaces : List TypeUse := []
  /-- Whether a blank line stands before the first group. -/
  opensWithBlank : Bool := false
  /-- Whether a blank line stands after the last group. -/
  closesWithBlank : Bool := false
  groups : List (List Member)

namespace ClassDeclaration

/-- All members in order. -/
def members (c : ClassDeclaration) : List Member :=
  c.groups.flatten

/-- The types that a class mentions. -/
def mentioned (c : ClassDeclaration) : List TypeName :=
  c.superclass?.toList.flatMap (·.mentioned) ++ c.interfaces.flatMap (·.mentioned) ++
    c.members.flatMap (·.mentioned)

end ClassDeclaration

/-- A file with one class. -/
structure SourceFile where
  package : String
  /-- What was asked for while the file was put together. -/
  requests : List ImportRequest
  /-- A comment in front of the class. -/
  comment : String := ""
  declaration : ClassDeclaration

namespace SourceFile

/-- The qualified names that the file imports. -/
def imports (f : SourceFile) : NameSet :=
  importsAfter f.requests

end SourceFile

end EntityScaffold.Java
