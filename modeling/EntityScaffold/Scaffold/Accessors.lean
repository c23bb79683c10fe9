import EntityScaffold.Java.Code
import EntityScaffold.Java.Identifier
import EntityScaffold.Mapping.Entity

/-!
# Fields with accessors

Every member of an entity becomes a private field with a getter and a setter (`AccessedField`), all
three named after the accessor name of the member. Members stored in a column get a constant with
the name of the property, and sets get a method that adds one element.
-/

namespace EntityScaffold.Scaffold

open Java (Expr Field Method TypeName TypeUse parameterName)
open Mapping (Entity ManyToOne SetMember)

/-- The class of sets. -/
def setType : TypeName :=
  ⟨"java.util.Set"⟩

/-- The class of the sets that are created. -/
def hashSetType : TypeName :=
  ⟨"java.util.HashSet"⟩

/-- A private field with its accessors. -/
structure AccessedField where
  /-- The accessor name. -/
  name : String
  type : TypeUse
  /-- Whether the value can also be asked for as a question. -/
  isFlag : Bool := false

/-- The field behind an accessor name. -/
def fieldName (name : String) : String :=
  "i" ++ name

/-- The method that reads what an accessor name stands for. -/
def getterName (name : String) : String :=
  "get" ++ name

/-- The method that changes what an accessor name stands for. -/
def setterName (name : String) : String :=
  "set" ++ name

/-- The value of an accessor name. -/
def valueOf (name : String) : Expr :=
  .call (getterName name) []

namespace AccessedField

/-- The field itself. -/
def declaration (f : AccessedField) : Field where
  modifiers := ["private"]
  type := f.type
  name := fieldName f.name

/-- A method that gives back the field. -/
def reader (f : AccessedField) (name : String) : Method where
  result? := some f.type
  name := name
  body := [.giveBack (.name (fieldName f.name))]
  isCompact := true

/-- The method that changes the field. -/
def setter (f : AccessedField) : Method where
  result? := some (.of ⟨"void"⟩)
  name := setterName f.name
  parameters := [⟨f.type, parameterName f.name⟩]
  body := [.assign (fieldName f.name) (.name (parameterName f.name))]
  isCompact := true

/-- The methods that read and change the field. -/
def accessors (f : AccessedField) : List Method :=
  (if f.isFlag then [f.reader ("is" ++ f.name)] else []) ++
    [f.reader (getterName f.name), f.setter]

end AccessedField

/-! ## The fields of an entity -/

/-- The fields of a simple key, of the components of a composite key and of properties. -/
def scalarFields (e : Entity) : List AccessedField :=
  (e.simpleKey?.toList.map fun key => ⟨key.name, .of key.type, false⟩) ++
    (e.keyComponents.map fun component => ⟨component.name, .of component.type, false⟩) ++
    e.properties.map fun property => ⟨property.name, .of property.type, property.type.isBoolean⟩

/-- The field of an association to one other entity. -/
def associationField (association : ManyToOne) : AccessedField :=
  ⟨association.name, .of association.target, false⟩

/-- The field of a set. -/
def setField (set : SetMember) : AccessedField :=
  ⟨set.name, .named setType [set.element], false⟩

/-- The fields of associations and sets. -/
def associationFields (e : Entity) : List AccessedField :=
  e.manyToOnes.map associationField ++ e.sets.map setField

/-- All fields of an entity, in the order in which their accessors are written. -/
def fields (e : Entity) : List AccessedField :=
  scalarFields e ++ associationFields e

/-- The method that adds an element to a set, which is created by the first one. -/
def adder (set : SetMember) : Method where
  result? := some (.of ⟨"void"⟩)
  name := "addTo" ++ Text.decapitalize set.name
  parameters := [⟨.of set.element, parameterName set.element.simple⟩]
  body :=
    let field := fieldName set.name
    [.onlyIf (.isNull (.name field)) (.assign field (.new (.named hashSetType [set.element]))),
      .run (.invoke (.name field) "add" [.name (parameterName set.element.simple)])]

/-! ## Constants -/

/-- The constant that holds the name of a property stored in `column`. -/
def nameConstant (column name : String) : Field where
  modifiers := ["public", "static"]
  type := .of ⟨"String"⟩
  name := "PROP_" ++ Text.upperAll column
  value? := some (.text (Text.decapitalize name))

/-- The constants of an entity: one for a simple key and one for each property with a column. -/
def nameConstants (e : Entity) : List Field :=
  (e.simpleKey?.toList.map fun key => nameConstant key.column key.name) ++
    e.properties.filterMap fun property =>
      property.source.column?.map fun column => nameConstant column property.name

end EntityScaffold.Scaffold
