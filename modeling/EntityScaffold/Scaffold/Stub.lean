import EntityScaffold.Scaffold.Basic

/-!
# Stubs

The two classes that are written once and then belong to the developer: the concrete class of the
entity and its access object. Each does no more than extend its base class. The access object is
never abstract, even where the entity is, because its base class creates it.
-/

namespace EntityScaffold.Scaffold

open Java (ClassDeclaration Method SourceFile)

/-- The constructor of the concrete class. -/
def concreteConstructor (s : Scaffold) : Method where
  result? := none
  name := ArtifactKind.concrete.className s.className
  body := [.run (.call "super" [])]

/-- The constructor of the access object. -/
def accessConstructor (s : Scaffold) : Method where
  result? := none
  name := ArtifactKind.access.className s.className
  body := []
  isCompact := true

/-- A class that extends one of the base classes. -/
def stub (s : Scaffold) (kind extended : ArtifactKind) (isAbstract : Bool) (constructor : Method) :
    SourceFile where
  package := kind.package s.package
  -- the base classes live in subpackages, so there is always a line for this one
  requests := [.name (s.type extended).qualified]
  declaration := {
    isAbstract := isAbstract
    name := kind.className s.className
    superclass? := some (.of (s.type extended))
    opensWithBlank := true
    closesWithBlank := true
    groups := [[.method constructor]] }

/-- The file of the concrete class. -/
def concreteFile (s : Scaffold) : SourceFile :=
  s.stub .concrete .base s.entity.isAbstract s.concreteConstructor

/-- The file of the access object. -/
def accessFile (s : Scaffold) : SourceFile :=
  s.stub .access .accessBase false s.accessConstructor

end EntityScaffold.Scaffold
