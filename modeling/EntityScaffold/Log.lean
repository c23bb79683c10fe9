/-!
# Log lines

A line of the log is a level, a message and named values. Lines are values like any others: the
parts of the library return or record them, and whoever runs the library decides which levels to
show.
-/

namespace EntityScaffold.Log

/-- How much a line matters, the most severe first. -/
inductive Level where
  | error
  | warn
  | info
  | debug
  deriving DecidableEq, Repr

namespace Level

/-- The name that starts a line. -/
def label : Level → String
  | error => "ERROR"
  | warn => "WARN"
  | info => "INFO"
  | debug => "DEBUG"

/-- The place in the order of severity. -/
def rank : Level → Nat
  | error => 0
  | warn => 1
  | info => 2
  | debug => 3

end Level

/-- A line of the log. -/
structure Line where
  level : Level
  message : String
  fields : List (String × String)
  deriving DecidableEq, Repr

namespace Line

/-- An informative line without values. -/
def info (message : String) : Line :=
  ⟨.info, message, []⟩

/-- Whether a log that shows `threshold` and everything more severe shows the line. -/
def isShownAt (line : Line) (threshold : Level) : Bool :=
  line.level.rank ≤ threshold.rank

/-- The line as text: level, message, then each value after its name. -/
def render (line : Line) : String :=
  line.level.label ++ " " ++ line.message ++
    String.join (line.fields.map fun (name, value) => " " ++ name ++ "=" ++ value)

end Line

end EntityScaffold.Log
