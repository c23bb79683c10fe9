import EntityScaffold.Mapping.Member

/-!
# Entities

An entity is a mapped class with its key, its members and the entities derived from it, which are
nested in it as in the document. `Entity.placed` lists an entity and all below it in the order of
the document, each with the entities above it; whatever walks over entities follows this list.
-/

namespace EntityScaffold.Mapping

open Java (TypeName)
open Xml (Element)

/-- How an entity is declared. -/
inductive EntityKind where
  /-- At the top of a document. -/
  | root
  | subclass
  | unionSubclass
  deriving DecidableEq, Repr

namespace EntityKind

/-- How a nested element declares an entity, if it does. -/
def ofTag? (tag : String) : Option EntityKind :=
  [("subclass", subclass), ("union-subclass", unionSubclass)].lookup tag

/-- The name of the kind in the log. -/
def label : EntityKind → String
  | root => "Class"
  | subclass => "Subclass"
  | unionSubclass => "UnionSubclass"

end EntityKind

/-- A mapped class. -/
structure Entity where
  kind : EntityKind
  /-- The name as it is written in the document. -/
  name : String
  type : TypeName
  isAbstract : Bool
  key? : Option Key
  properties : List Property
  manyToOnes : List ManyToOne
  sets : List SetMember
  /-- The entities derived from this one. -/
  derived : List Entity

namespace Entity

/-- The simple class name, by which entities are told apart. -/
def className (e : Entity) : String :=
  e.type.simple

/-- The key, if it is a simple one. -/
def simpleKey? (e : Entity) : Option SimpleKey :=
  match e.key? with
  | some (.simple key) => some key
  | _ => none

/-- The key, if it is a composite one. -/
def compositeKey? (e : Entity) : Option CompositeKey :=
  match e.key? with
  | some (.composite key) => some key
  | _ => none

/-- The components of a composite key. -/
def keyComponents (e : Entity) : List KeyComponent :=
  (e.compositeKey?.map (·.components)).getD []

/-- The associations that are stored in a column. -/
def columnManyToOnes (e : Entity) : List ManyToOne :=
  e.manyToOnes.filter (·.source.column?.isSome)

/-- The names shown for an entity in debugging: its key, and what is stored in a column. -/
def shownNames (e : Entity) : List String :=
  e.simpleKey?.toList.map (·.name) ++ e.keyComponents.map (·.name) ++
    (e.properties.filter (·.source.column?.isSome)).map (·.name) ++
    e.columnManyToOnes.map (·.name)

mutual

/-- Reads an entity: its name, key, properties, associations and sets, then the entities derived
from it in the order of the document. -/
def read (package : Option String) (kind : EntityKind) : Element → Reading Entity
  | .mk tag attributes children => do
    let e := Element.mk tag attributes children
    let name ← Reading.required e "name"
    let key? ← Key.read package e
    let properties ← Reading.collect (Property.read? package) (e.childrenNamed "property")
    let manyToOnes ← Reading.collect (ManyToOne.read? package) (e.childrenNamed "many-to-one")
    let sets ← Reading.collect (SetMember.read? package) (e.childrenNamed "set")
    let derived ← readDerived package children
    return {
      kind, name, key?, properties, manyToOnes, sets, derived
      type := TypeName.ofToken name package
      isAbstract := e.attr? "abstract" == some "true" }

/-- Reads the entities that are declared among the children of an element. -/
def readDerived (package : Option String) : List Element → Reading (List Entity)
  | [] => pure []
  | child :: children =>
    match EntityKind.ofTag? child.name with
    | none => readDerived package children
    | some kind => do
      let first ← read package kind child
      let rest ← readDerived package children
      return first :: rest

end

end Entity

/-- An entity with the entities it is nested in, the innermost first. -/
structure Placed where
  entity : Entity
  above : List Entity

namespace Placed

/-- The entity this one is derived from. -/
def parent? (p : Placed) : Option Entity :=
  p.above.head?

/-- The entity and the entities it is nested in, from itself outwards. -/
def path (p : Placed) : List Entity :=
  p.entity :: p.above

/-- The class names from the outermost entity down to this one. -/
def chain (p : Placed) : List String :=
  (p.path.map (·.className)).reverse

/-- The simple key of the nearest entity on the path that has one. -/
def key? (p : Placed) : Option SimpleKey :=
  p.path.findSome? (·.simpleKey?)

end Placed

mutual

/-- An entity below `above` and all entities derived from it, each before the ones below it. -/
def Entity.placed (above : List Entity) : Entity → List Placed
  | .mk kind name type isAbstract key? properties manyToOnes sets derived =>
    let e := Entity.mk kind name type isAbstract key? properties manyToOnes sets derived
    ⟨e, above⟩ :: placedAll (e :: above) derived

/-- Several entities below `above` and all entities derived from them. -/
def placedAll (above : List Entity) : List Entity → List Placed
  | [] => []
  | e :: es => e.placed above ++ placedAll above es

end

end EntityScaffold.Mapping
