import EntityScaffold.Artifact
import EntityScaffold.Host

/-!
# Emission

Emitting an artifact puts it where it belongs below the output directory. A file that belongs to
the generator is written only if its contents differ, and a file that belongs to the developer only
if nothing stands in its place; the outcome tells which it was. The directories of the package are
created first.
-/

namespace EntityScaffold

/-- What became of an artifact. -/
inductive Outcome where
  | written
  /-- The file had the same contents already. -/
  | unchanged
  /-- Something stood in the place of a file that is only created. -/
  | preserved
  deriving DecidableEq, Repr

namespace Outcome

/-- The outcome in the words of the log. -/
def label : Outcome → String
  | written => "Written"
  | unchanged => "Unchanged"
  | preserved => "Preserved"

end Outcome

namespace Artifact

variable {m : Type → Type} [Monad m] [Host m]

/-- Writes a file whatever it holds. -/
def replace (path : Path) (contents : ByteArray) : Attempt m Outcome := do
  Attempt.file path (Host.write path contents)
  return .written

/-- Writes a file unless it has the contents already. -/
def overwrite (path : Path) (contents : ByteArray) : Attempt m Outcome := do
  match ← ExceptT.lift (Host.read path) with
  | .ok present => if present = contents then return .unchanged else replace path contents
  | .error .notFound => replace path contents
  | .error cause => throw (.file path cause)

/-- Writes a file unless something is in its place. -/
def createOnce (path : Path) (contents : ByteArray) : Attempt m Outcome := do
  match ← ExceptT.lift (Host.create path contents) with
  | .ok () => return .written
  | .error .alreadyExists => return .preserved
  | .error cause => throw (.file path cause)

/-- Writes a file as its policy demands. -/
def put (policy : WritePolicy) (path : Path) (contents : ByteArray) : Attempt m Outcome :=
  match policy with
  | .overwrite => overwrite path contents
  | .createOnly => createOnce path contents

/-- Creates the directory in which a file is to stand. -/
def createParent (path : Path) : Attempt m Unit :=
  match path.parent? with
  | some directory => Attempt.file directory (Host.createDirectories directory)
  | none => pure ()

/-- The line that reports an outcome. -/
def report (path : Path) (outcome : Outcome) : Log.Line :=
  ⟨.debug, "emitted", [("path", path.text), ("outcome", outcome.label)]⟩

/-- Emits an artifact below the output directory. -/
def emit (output : Path) (a : Artifact) : Attempt m Outcome := do
  let path := a.pathBelow output
  createParent path
  let outcome ← put a.kind.policy path a.contents.toUTF8
  Attempt.log (report path outcome)
  return outcome

end Artifact

end EntityScaffold
