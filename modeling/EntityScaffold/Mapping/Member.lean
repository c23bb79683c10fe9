import EntityScaffold.Mapping.Key

/-!
# Members of entities

Properties, associations to one other entity, and sets. A property or an association takes its
value from a column or from a formula; only one with a column can be found by or shown. Each
`read?` gives the member, or nothing and one notice if it cannot be generated.
-/

namespace EntityScaffold.Mapping

open Java (TypeName)
open Xml (Element)

/-- Where a member takes its value from. -/
inductive Source where
  | column (name : String)
  | formula (text : String)
  deriving DecidableEq, Repr

namespace Source

/-- The source an element declares; a column wins over a formula. -/
def ofElement? (e : Element) : Option Source :=
  match e.attr? "column" with
  | some name => some (.column name)
  | none => (e.attr? "formula").map .formula

/-- The column, if the source is one. -/
def column? : Source → Option String
  | column name => some name
  | formula _ => none

end Source

/-- A property with a value type. -/
structure Property where
  name : String
  type : TypeName
  source : Source
  deriving DecidableEq, Repr

/-- An association to one other entity. -/
structure ManyToOne where
  name : String
  target : TypeName
  source : Source
  deriving DecidableEq, Repr

/-- What the elements of a set are. -/
inductive ElementKind where
  | manyToMany
  | oneToMany
  | value
  deriving DecidableEq, Repr

namespace ElementKind

/-- The kinds in the order in which they are looked for. -/
def all : List ElementKind :=
  [manyToMany, oneToMany, value]

/-- The element that declares the elements of a set. -/
def tag : ElementKind → String
  | manyToMany => "many-to-many"
  | oneToMany => "one-to-many"
  | value => "element"

/-- The attribute that holds the type of the elements. -/
def typeAttribute : ElementKind → String
  | manyToMany | oneToMany => "class"
  | value => "type"

end ElementKind

/-- A set of entities or values. -/
structure SetMember where
  name : String
  kind : ElementKind
  element : TypeName
  deriving DecidableEq, Repr

namespace Property

/-- Reads a property. It must have a name; without a type or a source it is left out. -/
def read? (package : Option String) (e : Element) : Reading (Option Property) := do
  let name := accessorName (← Reading.required e "name")
  match e.attr? "type", Source.ofElement? e with
  | none, _ =>
    Reading.notice (.propertyWithoutType name)
    return none
  | some _, none =>
    Reading.notice (.propertyWithoutSource name)
    return none
  | some token, some source => return some ⟨name, TypeName.ofToken token package, source⟩

end Property

namespace ManyToOne

/-- Reads an association. It must have a name and a target; without a source it is left out. -/
def read? (package : Option String) (e : Element) : Reading (Option ManyToOne) := do
  let name := accessorName (← Reading.required e "name")
  let target ← requiredType package e "class"
  match Source.ofElement? e with
  | none =>
    Reading.notice (.associationWithoutSource name)
    return none
  | some source => return some ⟨name, target, source⟩

end ManyToOne

namespace SetMember

/-- The child element that declares the elements of a set, with its kind: the first one of the
first kind that is there. -/
def elementChild? (e : Element) : Option (ElementKind × Element) :=
  ElementKind.all.findSome? fun kind => (e.child? kind.tag).map fun child => (kind, child)

/-- Reads a set. It must have a name, and its elements a type; a set with elements of no known kind
is left out. -/
def read? (package : Option String) (e : Element) : Reading (Option SetMember) := do
  let name := accessorName (← Reading.required e "name")
  match elementChild? e with
  | none =>
    Reading.notice (.unknownCollection name)
    return none
  | some (kind, child) => return some ⟨name, kind, ← requiredType package child kind.typeAttribute⟩

end SetMember

end EntityScaffold.Mapping
