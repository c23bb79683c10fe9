import EntityScaffold.Failure
import EntityScaffold.FileTree.Access
import EntityScaffold.Log

/-!
# Hosts

What a run needs from the system it runs on: a working directory, a handful of file operations and
a log. The rest of the library is written for any monad that provides them (`Host`).

`Simulation` provides them over a file tree held in memory, with the log as a list; it is what
statements about runs are about. `Attempt` adds failure on top of a host: what was done before the
failure stays done.
-/

namespace EntityScaffold

/-- The operations of a system that a run uses. -/
class Host (m : Type → Type) where
  /-- The absolute path of the working directory. -/
  workingDirectory : m Path
  /-- The contents of a file. -/
  read : Path → m (Except FileCause ByteArray)
  /-- Whether a file or directory is there. -/
  holds : Path → m Bool
  /-- Creates a directory and all that is missing on the way to it. -/
  createDirectories : Path → m (Except FileCause Unit)
  /-- Replaces the contents of a file or creates it. -/
  write : Path → ByteArray → m (Except FileCause Unit)
  /-- Creates a file that must not exist. -/
  create : Path → ByteArray → m (Except FileCause Unit)
  /-- Adds a line to the log. -/
  log : Log.Line → m Unit

/-- A file system in memory with a working directory, and the log so far. -/
structure World where
  tree : FileTree
  workingDirectory : Location
  log : List Log.Line

namespace World

/-- The absolute path of the working directory. -/
def workingPath (w : World) : Path :=
  ⟨"/" ++ String.intercalate "/" w.workingDirectory⟩

/-- The world after an operation that gives a new tree or fails. -/
def commit (w : World) : Except FileCause FileTree → Except FileCause Unit × World
  | .ok tree => (.ok (), { w with tree := tree })
  | .error cause => (.error cause, w)

end World

/-- Computations on a world in memory. -/
abbrev Simulation := StateM World

instance : Host Simulation where
  workingDirectory := fun w => (w.workingPath, w)
  read := fun p w => (w.tree.read w.workingDirectory p, w)
  holds := fun p w => (w.tree.holds w.workingDirectory p, w)
  createDirectories := fun p w =>
    let (outcome, tree) := w.tree.createDirectories w.workingDirectory p
    (outcome, { w with tree := tree })
  write := fun p contents w => w.commit (w.tree.write w.workingDirectory p contents)
  create := fun p contents w => w.commit (w.tree.create w.workingDirectory p contents)
  log := fun line w => ((), { w with log := w.log ++ [line] })

/-- Computations on a host that may fail. -/
abbrev Attempt (m : Type → Type) := ExceptT Failure m

namespace Attempt

variable {m : Type → Type} [Monad m]

/-- A file operation whose failure is reported for `path`. -/
def file {α : Type} (path : Path) (operation : m (Except FileCause α)) : Attempt m α :=
  ExceptT.mk do
    match ← operation with
    | .ok value => return .ok value
    | .error cause => return .error (.file path cause)

/-- The text of a file, which must be UTF-8. -/
def readText [Host m] (path : Path) : m (Except FileCause String) := do
  match ← Host.read path with
  | .error cause => return .error cause
  | .ok contents =>
    match String.fromUTF8? contents with
    | some text => return .ok text
    | none => return .error .notText

/-- Adds a line to the log. -/
def log [Host m] (line : Log.Line) : Attempt m Unit :=
  ExceptT.lift (Host.log line)

/-- Adds lines to the log. -/
def logAll [Host m] (lines : List Log.Line) : Attempt m Unit :=
  lines.forM log

end Attempt

end EntityScaffold
