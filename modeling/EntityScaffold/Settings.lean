import EntityScaffold.Path

/-!
# Settings of a run

Where the schema lies and where generated sources go. With a source root both are the same place.
Without one, the schema lies below the resource root, and sources go next to the marker directory
that is found nearest on the way up from the configuration document; if there is none, they go into
a directory of the working directory.
-/

namespace EntityScaffold

/-- What a run can be told. -/
structure Settings where
  /-- The root of both the schema and the generated sources. -/
  source? : Option Path := none
  configName : String := "hibernate.cfg.xml"
  /-- The root of the schema when there is no source root. -/
  resourceRoot : Path := ⟨"."⟩
  markerName : String := "WebContent"
  outputName : String := "JavaSource"
  /-- A text to put in front of every generated file. -/
  header? : Option String := none
  deriving DecidableEq, Repr

namespace Settings

/-- The directory below which the schema lies. -/
def resourceDirectory (s : Settings) : Path :=
  s.source?.getD s.resourceRoot

/-- The path of the configuration document. -/
def configPath (s : Settings) : Path :=
  s.resourceDirectory.join ⟨s.configName⟩

/-- The nearest path on the way up from `p` whose name is that of the marker. -/
def marker? (s : Settings) (p : Path) : Option Path :=
  p.ancestors.find? (·.fileName? == some s.markerName)

/-- The directory for generated sources. -/
def outputDirectory (s : Settings) (workingDirectory : Path) : Path :=
  match s.source? with
  | some source => source
  | none =>
    let config := (Path.absolute? workingDirectory s.configPath).getD s.configPath
    match (s.marker? config).bind (·.parent?) with
    | some project => project.join ⟨s.outputName⟩
    | none => ⟨s.outputName⟩

end Settings

end EntityScaffold
