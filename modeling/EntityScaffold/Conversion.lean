import EntityScaffold.Generation
import EntityScaffold.Schema.Reader
import EntityScaffold.Settings

/-!
# Conversion

A whole run: from the settings to the generated classes. Everything is read and the hierarchy is
complete before the first artifact is emitted (`prepare`), so a schema with a fault leaves all
files as they are.
-/

namespace EntityScaffold.Conversion

open Mapping (Resource)
open Schema (Reader)

variable {m : Type → Type} [Monad m] [Host m]

/-- Creates the output directory. -/
def createOutput (s : Settings) : Attempt m Path := do
  let output := s.outputDirectory (← ExceptT.lift Host.workingDirectory)
  Attempt.file output (Host.createDirectories output)
  return output

/-- Reads the configuration document and all mapping documents it lists. -/
def readSchema (parse : Xml.Parser) (s : Settings) : Attempt m (List Resource) := do
  let reader := Reader.ofRoot s.resourceDirectory
  Attempt.log (.info ("Reading " ++ s.configName ++ " ..."))
  let configuration ← reader.configuration parse s.configName
  configuration.resources.mapM fun name => do
    Attempt.log (.info ("Pre-processing " ++ name ++ " ..."))
    reader.resource parse name

/-- The hierarchy of all documents. -/
def resolve (resources : List Resource) : Attempt m Hierarchy := do
  let hierarchy ← ExceptT.mk (pure (Hierarchy.ofResources resources))
  Attempt.log hierarchy.summary
  Attempt.log ⟨.info, "Resolved " ++ toString resources.length ++ " resources",
    [("entities", toString hierarchy.size)]⟩
  return hierarchy

/-- All of a run that comes before the first artifact. -/
def prepare (parse : Xml.Parser) (s : Settings) : Attempt m (Generator × List Resource) := do
  Attempt.log (.info ("Config: " ++ s.configPath.text))
  let output ← createOutput s
  Attempt.log (.info ("Working directory: " ++ output.text))
  let resources ← readSchema parse s
  let hierarchy ← resolve resources
  return (⟨hierarchy, output, s.header?⟩, resources)

/-- Generates the classes of one document and says so. -/
def process (g : Generator) (r : Resource) : Generation m Unit := do
  Generator.attempt (Attempt.log (.info ("Processing " ++ r.path ++ " ...")))
  g.resource r

/-- Generates the classes of all documents. -/
def generate (g : Generator) (resources : List Resource) : Attempt m Tally := ExceptT.mk do
  let (outcome, progress) ← ((resources.forM (process g)).run).run {}
  return outcome.map fun () => progress.tally

/-- Runs a conversion. -/
def run (parse : Xml.Parser) (s : Settings) : Attempt m Tally := do
  let (generator, resources) ← prepare parse s
  let tally ← generate generator resources
  Attempt.log tally.summary
  return tally

end EntityScaffold.Conversion
