import EntityScaffold.CommandLine

/-!
# The program

The command line program on the system it runs on: files are those of the system, and the log goes
to standard output.
-/

namespace EntityScaffold.Program

/-- Computations on the system that show the log from a level on. -/
abbrev Live := ReaderT (Option Log.Level) IO

/-- A cause that is known by its number, or else the words of the system. -/
def causeOfCode (code : UInt32) (details : String) : FileCause :=
  if code = 20 then .notADirectory
  else if code = 21 then .isADirectory
  else if code = 36 then .nameTooLong
  else .other (details ++ " (os error " ++ toString code ++ ")")

/-- Why the system refused an operation on a file. -/
def cause : IO.Error → FileCause
  | .noFileOrDirectory .. => .notFound
  | .alreadyExists .. => .alreadyExists
  | .inappropriateType _ code details | .resourceExhausted _ code details
  | .permissionDenied _ code details | .invalidArgument _ code details => causeOfCode code details
  | error => .other (toString error)

/-- An operation on a path, with its failure as a value. The path must not hold a null
character. -/
def onPath {α : Type} (p : Path) (operation : IO α) : Live (Except FileCause α) := fun _ => do
  if p.text.toList.contains (Char.ofNat 0) then return .error .nullInName
  try
    return .ok (← operation)
  catch error =>
    return .error (cause error)

/-- Whether a file or directory is there: its canonical name can be found. -/
def holds (p : Path) : Live Bool :=
  return (← onPath p (IO.FS.realPath p.text)).isOk

/-- Creates a directory; one that is there already will do. -/
def ensureDirectory (p : Path) : Live (Except FileCause Unit) := do
  match ← onPath p (IO.FS.createDir p.text) with
  | .ok () => return .ok ()
  | .error found => return if ← holds (p.join ⟨"."⟩) then .ok () else .error found

/-- Creates the first path of a list, and where something on the way to it is missing, the later
ones before it. -/
def createChain : List Path → Live (Except FileCause Unit)
  | [] => return .ok ()
  | p :: above => do
    if p.text.isEmpty then return .ok ()
    match ← ensureDirectory p with
    | .error .notFound =>
      match ← createChain above with
      | .ok () => ensureDirectory p
      | .error found => return .error found
    | outcome => return outcome

instance : Host Live where
  workingDirectory := return ⟨toString (← IO.currentDir)⟩
  read p := onPath p (IO.FS.readBinFile p.text)
  holds := holds
  createDirectories p := createChain p.ancestors
  write p contents := onPath p (IO.FS.writeBinFile p.text contents)
  create p contents := onPath p do
    let handle ← IO.FS.Handle.mk p.text .writeNew
    handle.write contents
  log line := do
    if (← read).any line.isShownAt then IO.println line.render

/-- Carries out the command of the arguments and gives its exit status. -/
def run (arguments : List String) : IO UInt32 := do
  let environment : CommandLine.Environment := {
    source? := ← IO.getEnv "HBM_MODELGEN_SOURCE"
    config? := ← IO.getEnv "HBM_MODELGEN_CONFIG"
    level? := ← IO.getEnv "RUST_LOG" }
  let command := CommandLine.Command.ofArguments arguments environment
  match command with
  | .refuse _ => IO.eprint command.text
  | _ => IO.print command.text
  let status ← (command.execute : Live Nat).run environment.threshold
  return status.toUInt32

end EntityScaffold.Program

/-- Runs the program. -/
def main (arguments : List String) : IO UInt32 :=
  EntityScaffold.Program.run arguments
