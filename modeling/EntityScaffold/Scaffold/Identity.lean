import EntityScaffold.Mapping.Entity
import EntityScaffold.Scaffold.Accessors
import EntityScaffold.Scaffold.Basic

/-!
# Identity and texts of an entity

The methods of a base class that compare, hash and show its objects. With a simple key, own or
inherited, two objects are equal when their keys are; with a composite key, when all components
are. An object whose key is not set yet equals no other, and hashes by identity. Without a key none
of these methods are written. The text for debugging lists every name that is shown.
-/

namespace EntityScaffold.Scaffold

open Java (Expr Method Statement TypeUse parameterName)
open Mapping (KeyComponent)

/-- The value of an accessor name of another object. -/
def valueIn (object : Expr) (name : String) : Expr :=
  .invoke object (getterName name) []

/-- The object that a value is compared with. -/
def compared : Expr :=
  .name "o"

/-- Gives back `false` if the condition holds. -/
def differsIf (condition : Expr) : Statement :=
  .onlyIf condition (.giveBack (.name "false"))

/-- Gives back the hash of the object's identity if the condition holds. -/
def identityHashIf (condition : Expr) : Statement :=
  .onlyIf condition (.giveBack (.invoke (.name "super") "hashCode" []))

/-- The start of a comparison: an object of another class differs. -/
def differsUnlessInstance (type : TypeUse) : Statement :=
  differsIf (.joined .or [.isNull compared, .not (.isInstance compared type)])

/-- The test that two objects differ in a member or lack it. -/
def differsIn (other : Expr) (name : String) : Statement :=
  differsIf (.joined .or [
    .isNull (valueOf name),
    .isNull (valueIn other name),
    .not (.invoke (valueOf name) "equals" [valueIn other name])])

/-- The method that compares the object with another one. -/
def equalsMethod (body : List Statement) : Method where
  result? := some (.of ⟨"boolean"⟩)
  name := "equals"
  parameters := [⟨.of ⟨"Object"⟩, "o"⟩]
  body := body

/-- The method that hashes the object. -/
def hashMethod (body : List Statement) : Method where
  result? := some (.of ⟨"int"⟩)
  name := "hashCode"
  body := body

/-- A method without parameters that gives back a text. -/
def textMethod (name : String) (text : Expr) : Method where
  result? := some (.of ⟨"String"⟩)
  name := name
  body := [.giveBack text]

/-- The concrete class as code mentions it. -/
def selfType (s : Scaffold) : TypeUse :=
  .of (s.type .concrete)

/-- The start of every text of an object. -/
def opening (s : Scaffold) : Expr :=
  .text (s.className ++ "[")

/-- The end of every text of an object. -/
def closing : Expr :=
  .text "]"

/-! ## A simple key -/

/-- The member that labels an object next to its key: its name, else its label. -/
def label? (s : Scaffold) : Option String :=
  ["Name", "Label"].find? s.shown.contains

/-- The text of an object with a simple key. -/
def simpleText (s : Scaffold) (key : KeyRef) : Expr :=
  .joined .concat ([s.opening, valueOf key.name] ++
    (s.label?.toList.flatMap fun label => [.text " ", valueOf label]) ++ [closing])

/-- The methods of an object with a simple key. -/
def simpleIdentity (s : Scaffold) (key : KeyRef) : List Method :=
  let mine := valueOf key.name
  let theirs := valueIn (.cast s.selfType compared) key.name
  [equalsMethod [
      differsUnlessInstance s.selfType,
      differsIf (.joined .or [.isNull mine, .isNull theirs]),
      .giveBack (.invoke mine "equals" [theirs])],
    hashMethod [
      identityHashIf (.isNull mine),
      .giveBack (.invoke mine "hashCode" [])],
    textMethod "toString" (s.simpleText key)]

/-! ## A composite key -/

/-- The methods of an object with a composite key. -/
def compositeIdentity (s : Scaffold) (components : List KeyComponent) : List Method :=
  let other := parameterName s.className
  let names := components.map (·.name)
  [equalsMethod (
      [differsUnlessInstance s.selfType,
        .declare s.selfType other (.cast s.selfType compared)] ++
      names.map (differsIn (.name other)) ++
      [.giveBack (.name "true")]),
    hashMethod [
      identityHashIf (.joined .or (names.map fun name => .isNull (valueOf name))),
      .giveBack (.joined .xor (names.map fun name => .invoke (valueOf name) "hashCode" []))],
    textMethod "toString" (.joined .concatSpaced (
      [s.opening] ++ (names.map valueOf).intersperse (.text ", ") ++ [closing]))]

/-! ## All methods -/

/-- The methods that the key of the entity calls for; a simple key, even an inherited one, wins over
a composite one. -/
def identityMethods (s : Scaffold) : List Method :=
  match s.key?, s.entity.compositeKey? with
  | some key, _ => s.simpleIdentity key
  | none, some key => s.compositeIdentity key.components
  | none, none => []

/-- The method that shows the object in debugging, each name on a line of its own. -/
def debugMethod (s : Scaffold) : Method :=
  textMethod "toDebugString" (.joined .concatLines (
    [s.opening] ++
    (s.shown.names.map fun name =>
      .joined .concatSpaced [.text ("\\n\\t" ++ name ++ ": "), valueOf name]) ++
    [closing]))

end EntityScaffold.Scaffold
