import EntityScaffold.FileTree.Basic
import EntityScaffold.FileTree.Cause
import EntityScaffold.Path

/-!
# File operations on a tree

A path is resolved name by name from a working directory (`slot`): every name but the last must
lead to a directory, `.` stays and `..` goes up. What an operation then does depends only on the
directory reached and on the last name (`Slot`). Each operation fails with a `FileCause` and then
leaves the tree alone; `createDirectories` alone may have created directories before it fails.
-/

namespace EntityScaffold

namespace FileTree

/-- The longest name, in bytes. -/
def maxNameBytes : Nat := 255

/-- The first path length, in bytes, that is too long. -/
def maxPathBytes : Nat := 4096

/-- Where a path leads: a directory that was reached, and the name to look up there. -/
structure Slot where
  directory : Location
  /-- No name when the path denotes the directory itself. -/
  name? : Option String
  /-- Whether a slash follows the name, so that only a directory will do. -/
  directoryOnly : Bool

namespace Slot

/-- The location that the path denotes. -/
def location (s : Slot) : Location :=
  match s.name? with
  | some name => s.directory ++ [name]
  | none => s.directory

end Slot

/-- The directory reached from `here` by following names, each of which must lead to a
directory. -/
def walk (t : FileTree) (here : Location) : List String → Except FileCause Location
  | [] => .ok here
  | name :: names =>
    if name = "." then t.walk here names
    else if name = ".." then t.walk here.dropLast names
    else if name.utf8ByteSize > maxNameBytes then .error .nameTooLong
    else
      match t.find? (here ++ [name]) with
      | none => .error .notFound
      | some (.file _) => .error .notADirectory
      | some .directory => t.walk (here ++ [name]) names

/-- The names of a path, idle ones included, without the empty pieces. -/
def pathNames (p : Path) : List String :=
  (p.pieces.filter fun piece => !piece.isEmpty).map String.ofList

/-- Where a path leads from a working directory. -/
def slot (t : FileTree) (workingDirectory : Location) (p : Path) : Except FileCause Slot :=
  if p.text.toList.contains (Char.ofNat 0) then .error .nullInName
  else if p.text.isEmpty then .error .notFound
  else if p.text.utf8ByteSize ≥ maxPathBytes then .error .nameTooLong
  else
    let names := pathNames p
    match t.walk (if p.isAbsolute then [] else workingDirectory) names.dropLast with
    | .error cause => .error cause
    | .ok directory =>
      match names.getLast? with
      | none => .ok ⟨directory, none, true⟩
      | some name =>
        if name = "." then .ok ⟨directory, none, true⟩
        else if name = ".." then .ok ⟨directory.dropLast, none, true⟩
        else if name.utf8ByteSize > maxNameBytes then .error .nameTooLong
        else .ok ⟨directory, some name, p.endsWithSlash⟩

/-- What stands where the path leads. -/
def stat (t : FileTree) (workingDirectory : Location) (p : Path) : Except FileCause Node :=
  match t.slot workingDirectory p with
  | .error cause => .error cause
  | .ok s =>
    match t.find? s.location with
    | none => .error .notFound
    | some .directory => .ok .directory
    | some (.file contents) =>
      if s.directoryOnly then .error .notADirectory else .ok (.file contents)

/-- Whether the path leads to a file or a directory. -/
def holds (t : FileTree) (workingDirectory : Location) (p : Path) : Bool :=
  (t.stat workingDirectory p).isOk

/-- Whether the path leads to a directory. -/
def holdsDirectory (t : FileTree) (workingDirectory : Location) (p : Path) : Bool :=
  match t.stat workingDirectory p with
  | .ok .directory => true
  | _ => false

/-- The contents of the file that the path leads to. -/
def read (t : FileTree) (workingDirectory : Location) (p : Path) : Except FileCause ByteArray :=
  match t.stat workingDirectory p with
  | .error cause => .error cause
  | .ok .directory => .error .isADirectory
  | .ok (.file contents) => .ok contents

/-- The tree in which the file that the path leads to has the given contents; the file is created
if it is missing. -/
def write (t : FileTree) (workingDirectory : Location) (p : Path) (contents : ByteArray) :
    Except FileCause FileTree :=
  match t.slot workingDirectory p with
  | .error cause => .error cause
  | .ok s =>
    if s.directoryOnly || t.isDirectoryAt s.location then .error .isADirectory
    else .ok (t.put s.location (.file contents))

/-- The tree with a new file; anything that stands there already is in the way, a directory too. -/
def create (t : FileTree) (workingDirectory : Location) (p : Path) (contents : ByteArray) :
    Except FileCause FileTree :=
  match t.slot workingDirectory p with
  | .error cause => .error cause
  | .ok s =>
    if s.name?.isSome && s.directoryOnly then .error .isADirectory
    else if (t.find? s.location).isSome then .error .alreadyExists
    else .ok (t.put s.location (.file contents))

/-- The tree with one new directory. -/
def createDirectory (t : FileTree) (workingDirectory : Location) (p : Path) :
    Except FileCause FileTree :=
  match t.slot workingDirectory p with
  | .error cause => .error cause
  | .ok s =>
    if (t.find? s.location).isSome then .error .alreadyExists
    else .ok (t.put s.location .directory)

/-- The tree with one new directory, or the same tree where the directory is there already. -/
def ensureDirectory (t : FileTree) (workingDirectory : Location) (p : Path) :
    Except FileCause FileTree :=
  match t.createDirectory workingDirectory p with
  | .ok u => .ok u
  | .error cause => if t.holdsDirectory workingDirectory p then .ok t else .error cause

/-- Creates the first path of a list, and where something on the way to it is missing, the later
ones before it. The empty path needs no directory. -/
def createChain (workingDirectory : Location) :
    List Path → FileTree → Except FileCause Unit × FileTree
  | [], t => (.ok (), t)
  | p :: above, t =>
    if p.text.isEmpty then (.ok (), t)
    else
      match t.ensureDirectory workingDirectory p with
      | .ok u => (.ok (), u)
      | .error .notFound =>
        match createChain workingDirectory above t with
        | (.error cause, u) => (.error cause, u)
        | (.ok (), u) =>
          match u.ensureDirectory workingDirectory p with
          | .ok v => (.ok (), v)
          | .error cause => (.error cause, u)
      | .error cause => (.error cause, t)

/-- Creates the directory that the path leads to, with all that is missing on the way. -/
def createDirectories (t : FileTree) (workingDirectory : Location) (p : Path) :
    Except FileCause Unit × FileTree :=
  createChain workingDirectory p.ancestors t

end FileTree

end EntityScaffold
