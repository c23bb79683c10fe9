import EntityScaffold.Java.Code

/-!
# The text of generated code

Every kind of code has one written form. Members are indented by one tab, statements by two.
Imports are printed in order, with a blank line wherever the top-level package changes.
-/

namespace EntityScaffold.Java

open Text (NameSet)

namespace TypeUse

/-- The type as written. -/
def render : TypeUse → String
  | full name => name
  | named type [] => type.simple
  | named type arguments =>
    type.simple ++ "<" ++ String.intercalate "," (arguments.map (·.simple)) ++ ">"

end TypeUse

namespace Operator

/-- What stands between two operands. -/
def glue : Operator → String
  | or => " || "
  | xor => " ^ "
  | concat => "+"
  | concatSpaced => " + "
  | concatLines => " +\n\t\t\t"

end Operator

/-- The expression as the receiver of a call, given its text: a cast needs parentheses. -/
def Expr.asReceiver (receiver : Expr) (text : String) : String :=
  match receiver with
  | .cast _ _ => "(" ++ text ++ ")"
  | _ => text

mutual

/-- The expression as written. -/
def Expr.render : Expr → String
  | .name text => text
  | .text chars => "\"" ++ chars ++ "\""
  | .call method arguments => method ++ "(" ++ String.intercalate ", " (renderAll arguments) ++ ")"
  | .invoke receiver method arguments =>
    receiver.asReceiver receiver.render ++ "." ++ method ++ "(" ++
      String.intercalate ", " (renderAll arguments) ++ ")"
  | .new type => "new " ++ type.render ++ "()"
  | .cast type value => "(" ++ type.render ++ ")" ++ value.render
  | .isNull value => value.render ++ " == null"
  | .isInstance value type => "(" ++ value.render ++ " instanceof " ++ type.render ++ ")"
  | .not value => "!" ++ value.render
  | .classOf type => type.render ++ ".class"
  | .joined operator operands => String.intercalate operator.glue (renderAll operands)

/-- Several expressions as written. -/
def renderAll : List Expr → List String
  | [] => []
  | e :: es => e.render :: renderAll es

end

namespace Statement

/-- The statement as written. -/
def render : Statement → String
  | run value => value.render ++ ";"
  | assign name value => name ++ " = " ++ value.render ++ ";"
  | declare type name value => type.render ++ " " ++ name ++ " = " ++ value.render ++ ";"
  | giveBack value => "return " ++ value.render ++ ";"
  | onlyIf condition body => "if (" ++ condition.render ++ ") " ++ body.render

end Statement

/-- The annotation as written. -/
def Annotation.render (a : Annotation) : String :=
  "@" ++ a.type.simple ++ "(" ++ a.argument ++ ")"

/-- Words, each with a space after it. -/
def renderWords (words : List String) : String :=
  String.join (words.map (· ++ " "))

namespace Method

/-- The body of a method with its braces. -/
def renderBody (m : Method) : String :=
  if !m.isCompact then
    "\x7b\n" ++ String.join (m.body.map fun s => "\t\t" ++ s.render ++ "\n") ++ "\t\x7d"
  else if m.body.isEmpty then "\x7b\x7d"
  else "\x7b " ++ renderWords (m.body.map (·.render)) ++ "\x7d"

/-- The method as written. -/
def render (m : Method) : String :=
  String.join (m.annotation?.toList.map fun a => "\t" ++ a.render ++ "\n") ++
    "\t" ++ renderWords (m.modifiers ++ m.result?.toList.map (·.render)) ++ m.name ++ "(" ++
    String.intercalate ", " (m.parameters.map fun p => p.type.render ++ " " ++ p.name) ++ ") " ++
    m.renderBody ++ "\n"

end Method

namespace Field

/-- The field as written. -/
def render (f : Field) : String :=
  "\t" ++ renderWords f.modifiers ++ f.type.render ++ " " ++ f.name ++
    String.join (f.value?.toList.map fun e => " = " ++ e.render) ++ ";\n"

end Field

namespace Member

/-- The member as written. -/
def render : Member → String
  | field f => f.render
  | method m => m.render

end Member

namespace ClassDeclaration

/-- The first line of the class. -/
def renderHead (c : ClassDeclaration) : String :=
  "public " ++ renderWords (if c.isAbstract then ["abstract"] else []) ++ "class " ++ c.name ++
    String.join (c.superclass?.toList.map fun t => " extends " ++ t.render) ++
    String.join (c.interfaces.map fun t => " implements " ++ t.render) ++ " \x7b\n"

/-- The class as written. A group without members leaves nothing. -/
def render (c : ClassDeclaration) : String :=
  let groups := c.groups.filter fun group => !group.isEmpty
  c.renderHead ++ (if c.opensWithBlank then "\n" else "") ++
    String.intercalate "\n" (groups.map fun group => String.join (group.map (·.render))) ++
    (if c.closesWithBlank then "\n" else "") ++ "\x7d\n"

end ClassDeclaration

/-- The top-level package of a qualified name: all before the first dot. -/
def topPackage (name : String) : String :=
  String.ofList (name.toList.takeWhile (· != '.'))

/-- Import lines in the order given, where `last?` is the top-level package of the line before. -/
def renderImports (last? : Option String) : List String → String
  | [] => ""
  | name :: names =>
    let top := topPackage name
    (if last?.any (· != top) then "\n" else "") ++ "import " ++ name ++ ";\n" ++
      renderImports (some top) names

/-- The line that names the package, with the blank line after it. There is none for the empty
package. -/
def renderPackage (package : String) : String :=
  if package.isEmpty then "" else "package " ++ package ++ ";\n\n"

namespace SourceFile

/-- The file as written. -/
def render (f : SourceFile) : String :=
  renderPackage f.package ++ renderImports none f.imports.names ++ "\n" ++ f.comment ++
    f.declaration.render

end SourceFile

end EntityScaffold.Java
