/-!
# Causes of failed file operations

Why the operating system, or the decoding of a text file, refused. The wording in `message` ends
up in the output of the program.
-/

namespace EntityScaffold

/-- Why a file operation failed. -/
inductive FileCause where
  | notFound
  | alreadyExists
  | notADirectory
  | isADirectory
  | nameTooLong
  /-- The path holds a null character. -/
  | nullInName
  /-- The file holds bytes that are not UTF-8. -/
  | notText
  /-- Any other cause, in the words of the system. -/
  | other (description : String)
  deriving DecidableEq, Repr

namespace FileCause

/-- The cause in words. -/
def message : FileCause → String
  | notFound => "No such file or directory (os error 2)"
  | alreadyExists => "File exists (os error 17)"
  | notADirectory => "Not a directory (os error 20)"
  | isADirectory => "Is a directory (os error 21)"
  | nameTooLong => "File name too long (os error 36)"
  | nullInName => "file name contained an unexpected NUL byte"
  | notText => "stream did not contain valid UTF-8"
  | other description => description

end FileCause

end EntityScaffold
