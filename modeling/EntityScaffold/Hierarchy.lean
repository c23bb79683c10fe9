import EntityScaffold.Failure
import EntityScaffold.Log
import EntityScaffold.Mapping.Resource

/-!
# The hierarchy of entities

A `Hierarchy` knows of every entity, by its class name, the entity it is derived from and its own
simple key. It is built from the entities of all documents in order (`ofResources`), which fails at
the first class name that comes again.

The facts are kept with the latest entity first. An entity is recorded after the one it is derived
from, so the search for a key outwards (`nearestKey?`) only ever moves on in the list and ends.
-/

namespace EntityScaffold

open Java (TypeName)
open Mapping (Entity Placed Resource SimpleKey)

/-- The type and the accessor name of a simple key. -/
structure KeyRef where
  type : TypeName
  name : String
  deriving DecidableEq, Repr

namespace KeyRef

/-- The type and the name of a key. -/
def ofKey (key : SimpleKey) : KeyRef :=
  ⟨key.type, key.name⟩

/-- What stands for the key of an entity of which none is known. -/
def fallback : KeyRef :=
  ⟨⟨"Long"⟩, "UniqueId"⟩

end KeyRef

/-- What is known of an entity. -/
structure EntityFact where
  name : String
  parent? : Option String
  key? : Option KeyRef
  deriving DecidableEq, Repr

namespace EntityFact

/-- What an entity at its place tells. -/
def ofPlaced (p : Placed) : EntityFact :=
  ⟨p.entity.className, p.parent?.map (·.className), p.entity.simpleKey?.map .ofKey⟩

end EntityFact

/-- What is known of all entities, the latest first; no name comes twice. -/
structure Hierarchy where
  facts : List EntityFact
  nodup_names : (facts.map (·.name)).Nodup

namespace Hierarchy

/-- The hierarchy without entities. -/
def empty : Hierarchy :=
  ⟨[], List.nodup_nil⟩

/-- The names of all entities. -/
def names (h : Hierarchy) : List String :=
  h.facts.map (·.name)

/-- The number of entities. -/
def size (h : Hierarchy) : Nat :=
  h.facts.length

/-- The number of entities with a simple key of their own. -/
def keyCount (h : Hierarchy) : Nat :=
  h.facts.countP (·.key?.isSome)

/-- The hierarchy with one more entity. A name that an enclosing entity has is a cycle; any other
name that is there already is a duplicate. -/
def add (h : Hierarchy) (p : Placed) : Except Failure Hierarchy :=
  let name := p.entity.className
  if name ∈ p.above.map (·.className) then .error (.inheritanceCycle name p.chain)
  else if fresh : name ∈ h.facts.map (·.name) then .error (.duplicateEntity name)
  else .ok ⟨.ofPlaced p :: h.facts, List.nodup_cons.mpr ⟨fresh, h.nodup_names⟩⟩

/-- The hierarchy of entities in the order given. -/
def ofPlaced (ps : List Placed) : Except Failure Hierarchy :=
  ps.foldlM add empty

/-- The hierarchy of the entities of all documents. -/
def ofResources (rs : List Resource) : Except Failure Hierarchy :=
  ofPlaced (rs.flatMap (·.placed))

/-- The line that reports a complete hierarchy. -/
def summary (h : Hierarchy) : Log.Line :=
  ⟨.debug, "resolution complete",
    [("entities", toString h.size), ("identifiers", toString h.keyCount)]⟩

/-- What is known of the entity of a name. -/
def find? (h : Hierarchy) (name : String) : Option EntityFact :=
  h.facts.find? (·.name == name)

/-- The entity from which an entity is derived. -/
def parent? (h : Hierarchy) (name : String) : Option String :=
  (h.find? name).bind (·.parent?)

/-- The simple key that an entity has itself. -/
def key? (h : Hierarchy) (name : String) : Option KeyRef :=
  (h.find? name).bind (·.key?)

/-- The key of the nearest entity that has one, from the entity of this name outwards. -/
def nearestKey? (name : String) : List EntityFact → Option KeyRef
  | [] => none
  | fact :: older =>
    if fact.name = name then
      match fact.key?, fact.parent? with
      | some key, _ => some key
      | none, some parent => nearestKey? parent older
      | none, none => none
    else nearestKey? name older

/-- The key by which a finder looks for an entity: the nearest one, or the one assumed where none
is known. -/
def finderKey (h : Hierarchy) (name : String) : KeyRef :=
  (nearestKey? name h.facts).getD .fallback

end Hierarchy

end EntityScaffold
