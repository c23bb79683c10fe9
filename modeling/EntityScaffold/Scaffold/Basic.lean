import EntityScaffold.Artifact
import EntityScaffold.Hierarchy
import EntityScaffold.Java.Code

/-!
# Scaffolds

A `Scaffold` is what the generated classes of one entity are made from: the entity itself, what it
inherits from the entities it is nested in, and the hierarchy, in which finders look up the keys of
other entities. It knows the four classes as types, so they name and import each other by one
definition.
-/

namespace EntityScaffold

open Java (TypeName)
open Mapping (Entity Placed)
open Text (NameSet)

/-- What the generated classes of an entity are made from. -/
structure Scaffold where
  entity : Entity
  /-- The class from which the base class is derived. -/
  parent? : Option TypeName
  /-- The simple key of the nearest entity that has one, from the entity itself outwards. -/
  key? : Option KeyRef
  /-- The names shown in debugging, those of the enclosing entities included. -/
  shown : NameSet
  hierarchy : Hierarchy

namespace Scaffold

/-- The scaffold of an entity at its place. -/
def ofPlaced (hierarchy : Hierarchy) (shown : NameSet) (p : Placed) : Scaffold where
  entity := p.entity
  parent? := p.parent?.map (·.type)
  key? := p.key?.map .ofKey
  shown := shown
  hierarchy := hierarchy

/-- The package of the entity, which a qualified class name decides. -/
def package (s : Scaffold) : String :=
  s.entity.type.package?.getD ""

/-- The class name of the entity. -/
def className (s : Scaffold) : String :=
  s.entity.className

/-- One of the generated classes. -/
def type (s : Scaffold) (kind : ArtifactKind) : TypeName :=
  kind.type s.package s.className

/-- The comment in front of a class that is generated anew on every run. -/
def ownershipComment : String :=
  "/**\n * Do not change this class. It has been automatically generated by hbm-modelgen.\n */\n"

end Scaffold

end EntityScaffold
