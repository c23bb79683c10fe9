import EntityScaffold.Conversion
import EntityScaffold.Xml.Document

/-!
# The command line

What the program does is decided by its arguments and by three variables of the environment. The
arguments are taken one after the other: the first fault, or the first request for the usage or
the version, settles the command. An option that is not given is taken from the environment.
-/

namespace EntityScaffold.CommandLine

/-- The variables of the environment that matter. -/
structure Environment where
  source? : Option String := none
  config? : Option String := none
  /-- The level from which on the log is shown. -/
  level? : Option String := none

/-- The option for the source root or the one for the name of the configuration document. -/
inductive Setting where
  | source
  | config
  deriving DecidableEq, Repr

namespace Setting

/-- The name that follows the dashes. -/
def name : Setting → String
  | source => "source"
  | config => "config"

/-- The option of a name. -/
def ofName? (name : String) : Option Setting :=
  [source, config].find? (·.name == name)

end Setting

/-- What is wrong with the arguments or the environment. -/
inductive Misuse where
  | unknownOption (argument : String)
  | unexpectedArgument (argument : String)
  | missingValue (setting : Setting)
  | givenTwice (setting : Setting)
  /-- The source root is an empty text. -/
  | emptySource
  deriving DecidableEq, Repr

namespace Misuse

/-- The fault in words. -/
def message : Misuse → String
  | unknownOption argument => "unexpected option '" ++ argument ++ "'"
  | unexpectedArgument argument => "unexpected argument '" ++ argument ++ "'"
  | missingValue setting => "a value is required for '--" ++ setting.name ++ "'"
  | givenTwice setting => "'--" ++ setting.name ++ "' cannot be used twice"
  | emptySource => "'--source' must not be empty"

end Misuse

/-- What the program is told to do. -/
inductive Command where
  | convert (settings : Settings)
  | showUsage
  | showVersion
  | refuse (misuse : Misuse)
  deriving DecidableEq, Repr

/-! ## Arguments -/

/-- What an argument is, by how it starts. -/
inductive Argument where
  /-- Two dashes alone: all that follows is no option. -/
  | separator
  /-- Two dashes, a name, and the value after an equals sign. -/
  | long (name : String) (value? : Option String)
  /-- One dash and a letter; what comes after the letter does not matter. -/
  | short (letter : Char)
  /-- Anything else, one dash alone included. -/
  | plain

namespace Argument

/-- What stands after two dashes: a name up to the first equals sign, and a value after it. -/
def ofLong (text : List Char) : Argument :=
  match text.span (· != '=') with
  | (name, []) => .long (String.ofList name) none
  | (name, _ :: value) => .long (String.ofList name) (some (String.ofList value))

/-- What an argument is. -/
def ofText (text : String) : Argument :=
  match text.toList with
  | ['-', '-'] => separator
  | '-' :: '-' :: rest => ofLong rest
  | '-' :: letter :: _ => short letter
  | _ => plain

end Argument

/-- The options given so far. -/
structure Given where
  source? : Option String := none
  config? : Option String := none
  deriving DecidableEq, Repr

namespace Given

/-- The value given for an option. -/
def value? (given : Given) : Setting → Option String
  | .source => given.source?
  | .config => given.config?

/-- The options with one more. -/
def add (given : Given) (setting : Setting) (value : String) : Except Command Given :=
  if (given.value? setting).isSome then .error (.refuse (.givenTwice setting))
  else
    match setting with
    | .source =>
      if value.isEmpty then .error (.refuse .emptySource)
      else .ok { given with source? := some value }
    | .config => .ok { given with config? := some value }

/-- Takes the arguments in order and adds the options they give, unless one of them settles the
command. -/
def collect (given : Given) : List String → Except Command Given
  | [] => .ok given
  | argument :: rest =>
    match Argument.ofText argument with
    | .separator =>
      match rest with
      | [] => .ok given
      | extra :: _ => .error (.refuse (.unexpectedArgument extra))
    | .plain => .error (.refuse (.unexpectedArgument argument))
    | .short 'h' | .long "help" none => .error .showUsage
    | .short 'V' | .long "version" none => .error .showVersion
    | .short _ => .error (.refuse (.unknownOption argument))
    | .long name value? =>
      match Setting.ofName? name, value?, rest with
      | none, _, _ => .error (.refuse (.unknownOption argument))
      | some setting, some value, rest =>
        match given.add setting value with
        | .ok more => more.collect rest
        | .error command => .error command
      | some setting, none, [] => .error (.refuse (.missingValue setting))
      | some setting, none, value :: rest =>
        match Argument.ofText value with
        | .plain =>
          match given.add setting value with
          | .ok more => more.collect rest
          | .error command => .error command
        | _ => .error (.refuse (.missingValue setting))

/-- The options with what the environment adds: an option that was given wins. -/
def complete (given : Given) (environment : Environment) : Given where
  source? := given.source? <|> environment.source?
  config? := given.config? <|> environment.config?

/-- The settings that the options make, unless the source root is empty. -/
def command (given : Given) : Command :=
  if given.source? = some "" then .refuse .emptySource
  else
    let standard : Settings := {}
    .convert { standard with
      source? := given.source?.map Path.mk
      configName := given.config?.getD standard.configName }

end Given

namespace Command

/-- The command that arguments and environment make. -/
def ofArguments (arguments : List String) (environment : Environment) : Command :=
  match ({} : Given).collect arguments with
  | .ok given => (given.complete environment).command
  | .error command => command

/-! ## Carrying out a command -/

/-- How to use the program. -/
def usage : String :=
  String.intercalate "\n" [
    "Generate layered Java model and DAO classes from Hibernate mapping documents",
    "",
    "Usage: hbm-modelgen [OPTIONS]",
    "",
    "Options:",
    "      --source <DIR>   Directory of the documents, which also receives the sources",
    "                       [env: HBM_MODELGEN_SOURCE]",
    "      --config <NAME>  Name of the configuration document, below that directory",
    "                       [env: HBM_MODELGEN_CONFIG] [default: hibernate.cfg.xml]",
    "  -h, --help           Print help",
    "  -V, --version        Print version",
    ""]

/-- The name and the version of the program. -/
def version : String :=
  "hbm-modelgen 0.2.0\n"

/-- What a command prints by itself. -/
def text : Command → String
  | convert _ => ""
  | showUsage => usage
  | showVersion => version
  | refuse misuse => "error: " ++ misuse.message ++ "\n\nFor more information, try '--help'.\n"

/-- The line that reports that a run failed. -/
def failureLine (failure : Failure) : Log.Line :=
  ⟨.error, "model generation failed: " ++ failure.chain, []⟩

/-- Carries out a command. The result is the exit status. -/
def execute {m : Type → Type} [Monad m] [Host m] : Command → m Nat
  | convert settings => do
    match ← (Conversion.run Xml.rootElement? settings).run with
    | .ok _ => return 0
    | .error failure =>
      Host.log (failureLine failure)
      return 1
  | showUsage | showVersion => return 0
  | refuse _ => return 2

end Command

namespace Environment

/-- The level from which on the log is shown; none if nothing is shown. -/
def threshold (environment : Environment) : Option Log.Level :=
  match environment.level? with
  | some "off" => none
  | some "error" => some .error
  | some "warn" => some .warn
  | some "debug" | some "trace" => some .debug
  | _ => some .info

end Environment

end EntityScaffold.CommandLine
