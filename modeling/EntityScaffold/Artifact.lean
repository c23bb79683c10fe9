import EntityScaffold.Java.TypeName
import EntityScaffold.Path

/-!
# Artifacts

For every entity four files are generated. The two base classes belong to the generator: they are
written again whenever they differ. The concrete class and the access object belong to the
developer: they are created once and then left alone. The kind of an artifact decides its package,
its class name and who owns it.
-/

namespace EntityScaffold

open Java (qualify)

/-- What becomes of a file that is there already. -/
inductive WritePolicy where
  | overwrite
  | createOnly
  deriving DecidableEq, Repr

/-- What a generated file is for. -/
inductive ArtifactKind where
  | base
  | concrete
  | accessBase
  | access
  deriving DecidableEq, Repr

namespace ArtifactKind

/-- The kinds in the order of generation. -/
def all : List ArtifactKind :=
  [base, concrete, accessBase, access]

/-- What becomes of an existing file of this kind. -/
def policy : ArtifactKind → WritePolicy
  | base | accessBase => .overwrite
  | concrete | access => .createOnly

/-- The package below that of the entity, if there is one. -/
def subpackage? : ArtifactKind → Option String
  | base | accessBase => some "base"
  | concrete => none
  | access => some "dao"

/-- The class name, for an entity of the given class name. -/
def className (entity : String) : ArtifactKind → String
  | base => "Base" ++ entity
  | concrete => entity
  | accessBase => "Base" ++ entity ++ "DAO"
  | access => entity ++ "DAO"

/-- The package, for an entity of the given package. -/
def package (entityPackage : String) (kind : ArtifactKind) : String :=
  match kind.subpackage? with
  | some sub => qualify entityPackage sub
  | none => entityPackage

/-- The class as a type. -/
def type (entityPackage entity : String) (kind : ArtifactKind) : Java.TypeName :=
  ⟨qualify (kind.package entityPackage) (kind.className entity)⟩

end ArtifactKind

/-- A generated file. -/
structure Artifact where
  kind : ArtifactKind
  package : String
  className : String
  contents : String
  deriving DecidableEq, Repr

namespace Artifact

/-- The path below the output directory: a directory for each part of the package, and a file named
for the class. -/
def relativePath (a : Artifact) : Path :=
  let directories := (Text.split '.' a.package.toList).filter fun part => !part.isEmpty
  let directory : Path :=
    directories.foldl (fun path part => path.join ⟨String.ofList part⟩) ⟨""⟩
  directory.join ⟨a.className ++ ".java"⟩

/-- The path of the file when sources go below `output`. -/
def pathBelow (a : Artifact) (output : Path) : Path :=
  output.join a.relativePath

end Artifact

end EntityScaffold
