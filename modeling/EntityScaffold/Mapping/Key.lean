import EntityScaffold.Java.TypeName
import EntityScaffold.Mapping.Reading

/-!
# Keys of entities

An entity is identified by a simple key, one property with a column, or by a composite key of
several components. The simple key wins over a composite one, and a composite key has at least one
component. Names are kept as accessor names.
-/

namespace EntityScaffold.Mapping

open Java (TypeName)
open Xml (Element)

/-- The name of a member as its accessors spell it. -/
def accessorName (name : String) : String :=
  Text.capitalize name

/-- A mandatory attribute that names a type, in a document that declares `package`. -/
def requiredType (package : Option String) (e : Element) (name : String) : Reading TypeName :=
  return TypeName.ofToken (← Reading.required e name) package

/-- A key of one property. -/
structure SimpleKey where
  name : String
  type : TypeName
  column : String
  deriving DecidableEq, Repr

/-- What a component of a composite key is. -/
inductive ComponentKind where
  | property
  | manyToOne
  deriving DecidableEq, Repr

namespace ComponentKind

/-- The element that declares a component. -/
def tag : ComponentKind → String
  | property => "key-property"
  | manyToOne => "key-many-to-one"

/-- The attribute that holds the type of a component. -/
def typeAttribute : ComponentKind → String
  | property => "type"
  | manyToOne => "class"

/-- The kind of component that an element declares, if it declares one. -/
def ofTag? (tag : String) : Option ComponentKind :=
  [property, manyToOne].find? (·.tag == tag)

end ComponentKind

/-- A component of a composite key. -/
structure KeyComponent where
  name : String
  type : TypeName
  kind : ComponentKind
  deriving DecidableEq, Repr

/-- A key of several components, at least one. -/
structure CompositeKey where
  components : List KeyComponent
  components_ne_nil : components ≠ []

/-- The key of an entity. -/
inductive Key where
  | simple (key : SimpleKey)
  | composite (key : CompositeKey)

namespace SimpleKey

/-- Reads a simple key; its name, type and column are mandatory, in this order. -/
def read (package : Option String) (e : Element) : Reading SimpleKey := do
  let name ← Reading.required e "name"
  let type ← requiredType package e "type"
  let column ← Reading.required e "column"
  return ⟨accessorName name, type, column⟩

end SimpleKey

namespace KeyComponent

/-- Reads a component of a composite key; other elements inside the key are none. -/
def read? (package : Option String) (e : Element) : Reading (Option KeyComponent) :=
  match ComponentKind.ofTag? e.name with
  | none => pure none
  | some kind => do
    let name ← Reading.required e "name"
    let type ← requiredType package e kind.typeAttribute
    return some ⟨accessorName name, type, kind⟩

end KeyComponent

namespace Key

/-- The key of the given components; without components there is none, which is noticed. -/
def ofComponents (components : List KeyComponent) : Reading (Option Key) :=
  if h : components ≠ [] then return some (.composite ⟨components, h⟩)
  else do
    Reading.notice .emptyCompositeKey
    return none

/-- Reads the key of a class from its first simple key, or else from its first composite key. -/
def read (package : Option String) (e : Element) : Reading (Option Key) :=
  match e.child? "id", e.child? "composite-id" with
  | some id, ignored => do
    if ignored.isSome then Reading.notice .compositeKeyIgnored
    return some (.simple (← SimpleKey.read package id))
  | none, some e => do
    let components ← Reading.collect (KeyComponent.read? package) e.children
    ofComponents components
  | none, none => return none

end Key

end EntityScaffold.Mapping
