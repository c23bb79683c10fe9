import EntityScaffold.Scaffold.Base

/-!
# The base class of the access object

The abstract class through which the objects of an entity are loaded. It hands out the one access
object, and for every association that is stored in a column it has a finder: a query for all
objects whose association leads to the object with a given key. The key of the target is looked up
in the hierarchy, so it is the same wherever the target is mapped.
-/

namespace EntityScaffold.Scaffold

open Java (ClassDeclaration Expr Field ImportRequest Method SourceFile TypeName TypeUse
  parameterName)
open Mapping (ManyToOne)

/-- The class of lists. -/
def listType : TypeName :=
  ⟨"java.util.List"⟩

/-- The hand-written class, in the package of access objects, from which all of them descend. -/
def rootAccessType (s : Scaffold) : TypeName :=
  ⟨Java.qualify (ArtifactKind.access.package s.package) "_RootDAO"⟩

/-- The access object as code mentions it. -/
def accessUse (s : Scaffold) : TypeUse :=
  .of (s.type .access)

/-- The type of the keys of the entity; any key will do where none is known. -/
def keyType (s : Scaffold) : TypeName :=
  (s.key?.map (·.type)).getD serializableType

/-- The field that holds the access object. -/
def instanceField (s : Scaffold) : Field where
  modifiers := ["private", "static"]
  type := s.accessUse
  name := "sInstance"

/-- The method that hands out the access object, which its first call creates. -/
def instanceMethod (s : Scaffold) : Method where
  modifiers := ["public", "static"]
  result? := some s.accessUse
  name := "getInstance"
  body := [
    .onlyIf (.isNull (.name "sInstance")) (.assign "sInstance" (.new s.accessUse)),
    .giveBack (.name "sInstance")]

/-- The method that tells which class is loaded. -/
def referenceMethod (s : Scaffold) : Method where
  result? := some (.named ⟨"Class"⟩ [s.type .concrete])
  name := "getReferenceClass"
  body := [.giveBack (.classOf s.selfType)]

/-! ## Finders -/

/-- The parameter of a finder, which stands for a key of the target. -/
def finderParameter (association : ManyToOne) : String :=
  parameterName association.name ++ "Id"

/-- The query of a finder for a target with the given key. -/
def finderQuery (s : Scaffold) (association : ManyToOne) (key : KeyRef) : String :=
  "from " ++ s.className ++ " x where x." ++ Text.decapitalize association.name ++ "." ++
    Text.decapitalize key.name ++ " = :" ++ finderParameter association

/-- The finder for an association whose target has the given key. -/
def finderFor (s : Scaffold) (association : ManyToOne) (key : KeyRef) : Method where
  annotation? := some ⟨⟨"SuppressWarnings"⟩, "\"unchecked\""⟩
  result? := some (.named listType [s.type .concrete])
  name := "findBy" ++ association.name
  parameters := [
    ⟨.full "org.hibernate.Session", "hibSession"⟩,
    ⟨.of key.type, finderParameter association⟩]
  body :=
    let query : Expr :=
      .invoke (.name "hibSession") "createQuery" [.text (s.finderQuery association key)]
    let bound : Expr := .invoke query ("set" ++ key.type.setter)
      [.text (finderParameter association), .name (finderParameter association)]
    [.giveBack (.invoke bound "list" [])]

/-- The finder for an association. -/
def finder (s : Scaffold) (association : ManyToOne) : Method :=
  s.finderFor association (s.hierarchy.finderKey association.target.simple)

/-- The finders of the entity. -/
def finders (s : Scaffold) : List Method :=
  s.entity.columnManyToOnes.map s.finder

/-- What is asked to be imported for the keys of the entity. -/
def keyRequest (s : Scaffold) : ImportRequest :=
  match s.key? with
  | some key => .type key.type
  | none => .name "java.io.Serializable"

/-- What a finder asks to import: the type of the key of its target. -/
def finderRequest (s : Scaffold) (association : ManyToOne) : ImportRequest :=
  .type (s.hierarchy.finderKey association.target.simple).type

/-! ## The class -/

/-- The base class of the access object. -/
def accessBaseClass (s : Scaffold) : ClassDeclaration where
  isAbstract := true
  name := ArtifactKind.accessBase.className s.className
  superclass? := some (.named s.rootAccessType [s.type .concrete, s.keyType])
  opensWithBlank := true
  groups :=
    [[.field s.instanceField], [.method s.instanceMethod], [.method s.referenceMethod]] ++
    s.finders.map fun m => [.method m]

/-- What the base class of the access object asks to import. -/
def accessBaseRequests (s : Scaffold) : List ImportRequest :=
  [.name (s.type .concrete).qualified, .name (s.type .access).qualified,
    .name s.rootAccessType.qualified, s.keyRequest] ++
  (if s.entity.columnManyToOnes.isEmpty then [] else [.name "java.util.List"]) ++
  s.entity.columnManyToOnes.map s.finderRequest

/-- The file of the base class of the access object. -/
def accessBaseFile (s : Scaffold) : SourceFile where
  package := ArtifactKind.accessBase.package s.package
  requests := s.accessBaseRequests
  comment := ownershipComment
  declaration := s.accessBaseClass

end EntityScaffold.Scaffold
