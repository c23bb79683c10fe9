import EntityScaffold.Mapping.Entity

/-!
# Mapping documents and their list

A mapping document maps classes of one package; the configuration document lists the mapping
documents. Both are read from their root elements.
-/

namespace EntityScaffold.Mapping

open Xml (Element)

/-- What a mapping document maps. -/
structure Resource where
  path : String
  package : Option String
  entities : List Entity

namespace Resource

/-- Reads the classes that a mapping document maps. -/
def readEntities (package : Option String) (es : List Element) : Reading (List Entity) :=
  Reading.collect (fun e => return some (← Entity.read package .root e)) es

/-- Reads a mapping document. -/
def read (path : String) (root : Element) : Reading Resource := do
  let package := root.attr? "package"
  return ⟨path, package, ← readEntities package (root.childrenNamed "class")⟩

/-- The entities of the document in order, each with the entities above it. -/
def placed (r : Resource) : List Placed :=
  placedAll [] r.entities

end Resource

/-- The mapping documents of a schema, in order. -/
structure Configuration where
  resources : List String
  deriving DecidableEq, Repr

namespace Configuration

/-- Reads the configuration document named `document`. -/
def read (document : String) (root : Element) : Except Failure Configuration :=
  match root.child? "session-factory" with
  | none => .error (.missingElement document root.name "session-factory")
  | some factory => .ok ⟨(factory.childrenNamed "mapping").filterMap (·.attr? "resource")⟩

end Configuration

end EntityScaffold.Mapping
