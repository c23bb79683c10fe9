import EntityScaffold.Scaffold.Identity

/-!
# The base class of an entity

The abstract class that holds the state of an entity. It is derived from the concrete class of the
entity it is nested in, and it is generated anew on every run.
-/

namespace EntityScaffold.Scaffold

open Java (ClassDeclaration Field ImportRequest Member Method SourceFile TypeName parameterName)
open Mapping (SetMember)

/-- The interface of values that can be stored. -/
def serializableType : TypeName :=
  ⟨"java.io.Serializable"⟩

/-- The version of the stored form. -/
def storedVersion : Field where
  modifiers := ["private", "static", "final"]
  type := .of ⟨"long"⟩
  name := "serialVersionUID"
  value? := some (.name "1L")

/-- The call that ends every constructor. -/
def initializeCall : Java.Statement :=
  .run (.call "initialize" [])

/-- The method that a concrete class may override to set up its objects. -/
def initializer : Method where
  modifiers := ["protected"]
  result? := some (.of ⟨"void"⟩)
  name := "initialize"
  body := []
  isCompact := true

/-- The constructor without parameters. -/
def emptyConstructor (s : Scaffold) : Method where
  result? := none
  name := ArtifactKind.base.className s.className
  body := [initializeCall]

/-- The constructor that sets the key. -/
def keyConstructor (s : Scaffold) (key : KeyRef) : Method where
  result? := none
  name := ArtifactKind.base.className s.className
  parameters := [⟨.of key.type, parameterName key.name⟩]
  body := [.run (.call (setterName key.name) [.name (parameterName key.name)]), initializeCall]

/-- The methods of a set. -/
def setMethods (set : SetMember) : List Method :=
  (setField set).accessors ++ [adder set]

/-- The accessors of all members, one group for each member. -/
def accessorGroups (s : Scaffold) : List (List Method) :=
  (scalarFields s.entity ++ s.entity.manyToOnes.map associationField).map (·.accessors) ++
    s.entity.sets.map setMethods

/-- The base class. -/
def baseClass (s : Scaffold) : ClassDeclaration where
  isAbstract := true
  name := ArtifactKind.base.className s.className
  superclass? := s.parent?.map .of
  interfaces := [.of serializableType]
  groups :=
    let fieldGroup (fs : List AccessedField) : List Member := fs.map fun f => .field f.declaration
    [[.field storedVersion],
      fieldGroup (scalarFields s.entity),
      fieldGroup (associationFields s.entity),
      (nameConstants s.entity).map .field,
      [.method s.emptyConstructor]] ++
    (s.key?.toList.map fun key => [.method (s.keyConstructor key)]) ++
    [[.method initializer]] ++
    s.accessorGroups.map (·.map .method) ++
    (s.identityMethods ++ [s.debugMethod]).map fun m => [.method m]

/-- What a set asks to import. -/
def setRequests (set : SetMember) : List ImportRequest :=
  [.type set.element, .name "java.util.Set", .name "java.util.HashSet"]

/-- What the base class asks to import, member by member. The class of the entity itself is needed
only where objects are compared. -/
def baseRequests (s : Scaffold) : List ImportRequest :=
  [.name "java.io.Serializable"] ++
  (s.entity.simpleKey?.toList.map fun key => .type key.type) ++
  (s.entity.keyComponents.map fun component => .type component.type) ++
  (s.entity.properties.map fun property => .type property.type) ++
  (s.entity.manyToOnes.map fun association => .type association.target) ++
  s.entity.sets.flatMap setRequests ++
  s.parent?.toList.map .type ++
  (s.key?.toList.map fun key => .type key.type) ++
  if s.key?.isSome || s.entity.compositeKey?.isSome then [.name (s.type .concrete).qualified]
  else []

/-- The file of the base class. -/
def baseFile (s : Scaffold) : SourceFile where
  package := ArtifactKind.base.package s.package
  requests := s.baseRequests
  comment := ownershipComment
  declaration := s.baseClass

end EntityScaffold.Scaffold
