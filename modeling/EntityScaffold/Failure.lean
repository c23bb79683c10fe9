import EntityScaffold.FileTree.Cause
import EntityScaffold.Path

/-!
# Failures

Every way in which reading a schema or generating code can fail, as a cause with the data it is
about. `message` is the wording; `chain` adds the underlying cause once more, as the report of a
whole run does.
-/

namespace EntityScaffold

/-- Why reading a schema or generating code failed. -/
inductive Failure where
  /-- A file or directory could not be read or written. -/
  | file (path : Path) (cause : FileCause)
  /-- A document is not well-formed. -/
  | malformed (path : Path)
  /-- The file that overrides a document type definition could not be read. -/
  | unreadableDtd (publicId : String) (location : Path) (cause : FileCause)
  | missingElement (document parent element : String)
  | missingAttribute (document element name : String)
  /-- Two entities have one class name. -/
  | duplicateEntity (entity : String)
  /-- An entity is nested below an entity of its own name; the chain of class names leads from the
  outermost entity down to the repetition. -/
  | inheritanceCycle (entity : String) (chain : List String)
  deriving DecidableEq, Repr

namespace Failure

/-- The failure in words. -/
def message : Failure → String
  | file path cause => "I/O error on " ++ path.text ++ ": " ++ cause.message
  | malformed path => "failed to parse " ++ path.text
  | unreadableDtd publicId location cause =>
    "cannot resolve DTD `" ++ publicId ++ "` to " ++ location.text ++ ": " ++ cause.message
  | missingElement document parent element =>
    document ++ ": <" ++ parent ++ "> has no <" ++ element ++ "> element"
  | missingAttribute document element name =>
    document ++ ": <" ++ element ++ "> is missing the `" ++ name ++ "` attribute"
  | duplicateEntity entity => "entity `" ++ entity ++ "` is mapped more than once"
  | inheritanceCycle entity chain =>
    "entity `" ++ entity ++ "` appears in its own inheritance chain: " ++
      String.intercalate " -> " chain

/-- The failure in words, followed by its underlying cause. -/
def chain (failure : Failure) : String :=
  match failure with
  | file _ cause | unreadableDtd _ _ cause => failure.message ++ ": " ++ cause.message
  | _ => failure.message

end Failure

end EntityScaffold
