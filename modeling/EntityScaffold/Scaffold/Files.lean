import EntityScaffold.Java.Printer
import EntityScaffold.Scaffold.Access
import EntityScaffold.Scaffold.Stub

/-!
# The files of an entity

The four generated files of an entity as artifacts. A header, if there is one, is put in front of
each of them and ends its line.
-/

namespace EntityScaffold.Scaffold

open Java (SourceFile)

/-- The generated code of a kind. -/
def sourceFile (s : Scaffold) : ArtifactKind → SourceFile
  | .base => s.baseFile
  | .concrete => s.concreteFile
  | .accessBase => s.accessBaseFile
  | .access => s.accessFile

/-- A header as it stands in front of a file. -/
def headerText : Option String → String
  | none => ""
  | some header => if header.toList.getLast? == some '\n' then header else header ++ "\n"

/-- The artifact of a kind. -/
def artifact (s : Scaffold) (header? : Option String) (kind : ArtifactKind) : Artifact where
  kind := kind
  package := kind.package s.package
  className := kind.className s.className
  contents := headerText header? ++ (s.sourceFile kind).render

/-- The artifacts of the entity in the order of generation. -/
def artifacts (s : Scaffold) (header? : Option String) : List Artifact :=
  ArtifactKind.all.map (s.artifact header?)

end EntityScaffold.Scaffold
