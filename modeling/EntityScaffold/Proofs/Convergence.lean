import EntityScaffold.Proofs.HandOwnedFiles
import EntityScaffold.Proofs.Regeneration
import EntityScaffold.Proofs.SchemaContents
import EntityScaffold.Xml.Document

/-!
# Output that depends on the input only

Two runs with the same settings that find the same schema leave the same files of the generator,
whatever else stood in their trees (`machine_output_determined`). The runs may differ at every
emission: one writes where the other finds the contents already, or preserves what the other
creates. But they prepare the same generator and the same documents (`prepare_agree`), and the plan
alone decides the last contents for each place.
-/

namespace EntityScaffold.Conversion

open FileTree
open Mapping (Configuration Resource)
open Schema (Reader)

theorem files_of_generate {g : Generator} {rs : List Resource} {w v : World} {tally : Tally}
    (h : (generate g rs : Attempt Simulation Tally).runIn w = (.ok tally, v)) :
    tally.files = 4 * (rs.flatMap (·.placed)).length := by
  obtain ⟨hend, rfl, -, -⟩ := generate_eq_ok h
  have hlength := (w.tree.length_outcomes_emitAll w.workingDirectory g.output (g.plan rs)).1 hend
  have hplan := g.length_planFrom [] (rs.flatMap (·.placed))
  have hfiles := Progress.files_foldl_record
    (w.tree.emitAll w.workingDirectory g.output (g.plan rs)).outcomes {}
  rw [← Generator.plan] at hplan
  have hnone : ({} : Tally).files = 0 := rfl
  have hsame (outcomes : List Outcome) :
      (tallyOf outcomes).files = (outcomes.foldl Tally.record {}).files := rfl
  rw [hsame, hfiles, hlength, hplan, hnone, Nat.zero_add]

/-! ## One schema -/

/-- The trees agree on the schema: on the text of the configuration document, and on the text of
every mapping document that it lists. -/
structure SameSchema (parse : Xml.Parser) (s : Settings) (workingDirectory : Location)
    (t u : FileTree) : Prop where
  configuration : u.textAt? workingDirectory s.configPath = t.textAt? workingDirectory s.configPath
  resources : ∀ c,
    (schemaReader s).configurationIn? parse t workingDirectory s.configName = some c →
    ∀ name ∈ c.resources,
      u.textAt? workingDirectory (s.resourceDirectory.join ⟨name⟩) =
        t.textAt? workingDirectory (s.resourceDirectory.join ⟨name⟩)

variable {parse : Xml.Parser} {s : Settings} {w w' v v' : World}

theorem SameSchema.holdsSchema_unique {workingDirectory : Location} {t u : FileTree}
    {c c' : Configuration} {rs rs' : List Resource}
    (hsame : SameSchema parse s workingDirectory t u)
    (h : HoldsSchema parse s workingDirectory t c rs)
    (h' : HoldsSchema parse s workingDirectory u c' rs') :
    rs' = rs := by
  have hconfiguration : (schemaReader s).configurationIn? parse u workingDirectory s.configName =
      (schemaReader s).configurationIn? parse t workingDirectory s.configName :=
    Reader.documentIn?_congr hsame.configuration
  rw [h.configuration, h'.configuration] at hconfiguration
  have hlisted : c' = c := Option.some.inj hconfiguration
  have hresources : c.resources.map ((schemaReader s).resourceIn? parse u workingDirectory) =
      c.resources.map ((schemaReader s).resourceIn? parse t workingDirectory) := by
    apply List.map_congr_left
    intro name hname
    exact Reader.documentIn?_congr (hsame.resources c h.configuration name hname)
  have hread := h'.resources
  rw [hlisted, hresources, h.resources] at hread
  exact (List.map_inj_right fun _ _ => Option.some.inj).mp hread.symm

/-- Runs that find the same schema come to the first artifact with the same generator and the same
documents. -/
theorem prepare_agree {g g' : Generator} {rs rs' : List Resource}
    (hdirectory : w'.workingDirectory = w.workingDirectory)
    (hsame : SameSchema parse s w.workingDirectory w.tree w'.tree)
    (h : (prepare parse s).runIn w = (.ok (g, rs), v))
    (h' : (prepare parse s).runIn w' = (.ok (g', rs'), v')) :
    g' = g ∧ rs' = rs := by
  obtain ⟨⟨c, hschema⟩, hhierarchy, houtput, hheader⟩ := prepare_eq_ok h
  obtain ⟨⟨c', hschema'⟩, hhierarchy', houtput', hheader'⟩ := prepare_eq_ok h'
  rw [hdirectory] at hschema'
  have hrs : rs' = rs := hsame.holdsSchema_unique hschema hschema'
  have hfacts : g'.hierarchy = g.hierarchy := by
    rw [hrs, hhierarchy] at hhierarchy'
    exact (Except.ok.inj hhierarchy').symm
  have hpath : g'.output = g.output := by
    rw [houtput', houtput, World.workingPath_congr hdirectory]
  refine ⟨?_, hrs⟩
  cases g
  cases g'
  cases hfacts
  cases hpath
  cases hheader.trans hheader'.symm
  rfl

/-! ## The files of the generator -/

/-- After a generation the places of the generator hold what the plan has last for them. -/
theorem find?_generate {g : Generator} {rs : List Resource} {tally : Tally}
    (h : (generate g rs : Attempt Simulation Tally).runIn w = (.ok tally, v)) {place : Location}
    (hplace : place ∈ g.ownedLocations w.workingDirectory rs) :
    ∃ contents,
      lastContents? w.workingDirectory g.output place (g.plan rs) = some contents ∧
        v.tree.find? place = some (.file contents) := by
  obtain ⟨hend, -, htree, -⟩ := generate_eq_ok h
  cases hlast : lastContents? w.workingDirectory g.output place (g.plan rs) with
  | none =>
    obtain ⟨a, ha, howns⟩ := mem_ownedLocations.mp hplace
    exact absurd howns (lastContents?_eq_none_iff.mp hlast a ha)
  | some contents =>
    rw [htree]
    exact ⟨contents, rfl, find?_emitAll_of_lastContents? hend hlast⟩

/-- The parts of a run that comes to an end. -/
theorem run_eq_ok {tally : Tally} (h : (run parse s).runIn w = (.ok tally, v)) :
    ∃ g rs prepared generated, (prepare parse s).runIn w = (.ok (g, rs), prepared) ∧
      (generate g rs).runIn prepared = (.ok tally, generated) ∧ v.tree = generated.tree ∧
      prepared.workingDirectory = w.workingDirectory := by
  obtain ⟨⟨g, rs⟩, prepared, hprepare, hrest⟩ := Attempt.runIn_bind_eq_ok h
  obtain ⟨tally', generated, hgenerate, hrest⟩ := Attempt.runIn_bind_eq_ok hrest
  obtain ⟨_, logged, hline, hend⟩ := Attempt.runIn_bind_eq_ok hrest
  cases hend
  have htree := ((Attempt.keeps_log (R := Eq) _).related hline).2
  exact ⟨g, rs, prepared, generated, hprepare, hgenerate, htree.symm,
    ((keeps_prepare parse s).related hprepare).1⟩

theorem machineOwned_iff {g : Generator} {rs : List Resource} {prepared : World}
    (h : (prepare parse s).runIn w = (.ok (g, rs), prepared)) {place : Location} :
    MachineOwned parse s w place ↔ place ∈ g.ownedLocations w.workingDirectory rs := by
  rw [Generator.mem_ownedLocations_iff]
  constructor
  · rintro ⟨g', rs', prepared', h', howned⟩
    rw [h] at h'
    cases h'
    exact howned
  · intro howned
    exact ⟨g, rs, prepared, h, howned⟩

/-- Two runs that come to an end, and whose trees agreed on the schema, report as many entities and
files, and leave the same contents in every base class and every base class of an access object. -/
theorem machine_output_determined {tally tally' : Tally}
    (hdirectory : w'.workingDirectory = w.workingDirectory)
    (hsame : SameSchema parse s w.workingDirectory w.tree w'.tree)
    (hrun : (run parse s).runIn w = (.ok tally, v))
    (hrun' : (run parse s).runIn w' = (.ok tally', v')) :
    tally'.entities = tally.entities ∧ tally'.files = tally.files ∧
      (∀ place, MachineOwned parse s w' place ↔ MachineOwned parse s w place) ∧
      ∀ place, MachineOwned parse s w place →
        ∃ contents, v.tree.find? place = some (.file contents) ∧
          v'.tree.find? place = some (.file contents) := by
  obtain ⟨g, rs, ready, generated, hprepare, hgenerate, htree, hstays⟩ := run_eq_ok hrun
  obtain ⟨g', rs', ready', generated', hprepare', hgenerate', htree', hstays'⟩ := run_eq_ok hrun'
  obtain ⟨rfl, rfl⟩ := prepare_agree hdirectory hsame hprepare hprepare'
  refine ⟨?_, ?_, fun place => ?_, fun place hplace => ?_⟩
  · rw [entities_of_generate hgenerate, entities_of_generate hgenerate']
  · rw [files_of_generate hgenerate, files_of_generate hgenerate']
  · rw [machineOwned_iff hprepare, machineOwned_iff hprepare', hdirectory]
  · have howned := (machineOwned_iff hprepare).mp hplace
    obtain ⟨contents, hlast, hfile⟩ := find?_generate hgenerate (hstays.symm ▸ howned)
    obtain ⟨contents', hlast', hfile'⟩ :=
      find?_generate hgenerate' ((hstays'.trans hdirectory).symm ▸ howned)
    rw [hstays', hdirectory, ← hstays, hlast] at hlast'
    cases hlast'
    exact ⟨contents, htree ▸ hfile, htree' ▸ hfile'⟩

/-! ### A fresh tree and a stale one -/

/-- The files of a schema with one class. -/
def roomSchema : List (Location × Node) :=
  [(["work"], .directory),
    (["work", "hibernate.cfg.xml"], .file (String.toUTF8
      "<configuration><session-factory><mapping resource='Room.hbm.xml'/></session-factory></configuration>")),
    (["work", "Room.hbm.xml"], .file (String.toUTF8 "<mapping><class name='Room'/></mapping>"))]

/-- A world with nothing but the schema. -/
def freshRoomWorld : World :=
  ⟨⟨roomSchema⟩, ["work"], []⟩

/-- A world with the schema, with an outdated base class, and with a class that was edited. -/
def staleRoomWorld : World :=
  ⟨⟨roomSchema ++
    [(["work", "JavaSource"], .directory),
      (["work", "JavaSource", "Room.java"], .file (String.toUTF8 "edited")),
      (["work", "JavaSource", "base"], .directory),
      (["work", "JavaSource", "base", "BaseRoom.java"], .file (String.toUTF8 "outdated"))]⟩,
    ["work"], []⟩

theorem exists_run_eq_ok (h : ((run parse s : Attempt Simulation Tally).runIn w).1.isOk = true) :
    ∃ tally v, (run parse s).runIn w = (.ok tally, v) := by
  rcases hrun : (run parse s : Attempt Simulation Tally).runIn w with ⟨failure | tally, v⟩
  · rw [hrun] at h
    cases h
  · exact ⟨tally, v, rfl⟩

theorem machine_output_determined_room :
    SameSchema Xml.rootElement? {} ["work"] freshRoomWorld.tree staleRoomWorld.tree ∧
      ∃ tally v tally' v', (run Xml.rootElement? {}).runIn freshRoomWorld = (.ok tally, v) ∧
        (run Xml.rootElement? {}).runIn staleRoomWorld = (.ok tally', v') ∧
        tally'.entities = tally.entities ∧ tally'.files = tally.files ∧
        ∀ place, MachineOwned Xml.rootElement? {} freshRoomWorld place →
          ∃ contents, v.tree.find? place = some (.file contents) ∧
            v'.tree.find? place = some (.file contents) := by
  have hlisted : (schemaReader {}).configurationIn? Xml.rootElement? freshRoomWorld.tree ["work"]
      "hibernate.cfg.xml" = some ⟨["Room.hbm.xml"]⟩ := by decide +kernel
  have hsame : SameSchema Xml.rootElement? {} ["work"] freshRoomWorld.tree staleRoomWorld.tree := by
    refine ⟨by decide +kernel, fun c hc name hname => ?_⟩
    cases hlisted.symm.trans hc
    rw [List.mem_singleton.mp hname]
    decide +kernel
  have hfresh : ((run Xml.rootElement? {} : Attempt Simulation Tally).runIn
      freshRoomWorld).1.isOk = true := by decide +kernel
  have hstale : ((run Xml.rootElement? {} : Attempt Simulation Tally).runIn
      staleRoomWorld).1.isOk = true := by decide +kernel
  obtain ⟨tally, v, hrun⟩ := exists_run_eq_ok hfresh
  obtain ⟨tally', v', hrun'⟩ := exists_run_eq_ok hstale
  have hdirectory : staleRoomWorld.workingDirectory = freshRoomWorld.workingDirectory := rfl
  obtain ⟨hentities, hfiles, -, hcontents⟩ :=
    machine_output_determined hdirectory hsame hrun hrun'
  exact ⟨hsame, tally, v, tally', v', hrun, hrun', hentities, hfiles, hcontents⟩

end EntityScaffold.Conversion
