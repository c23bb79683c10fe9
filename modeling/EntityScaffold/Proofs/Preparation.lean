import EntityScaffold.Conversion
import EntityScaffold.Proofs.SimulationRuns
import EntityScaffold.Proofs.TreeGrowth

/-!
# What happens before generation

Reading documents changes no tree, so it keeps every reflexive relation (`keeps_configuration`,
`keeps_resource`). All of a run that comes before the first artifact adds directories only
(`keeps_prepare`), whether it succeeds or fails, and only on the way to the output directory
(`keepsFrom_prepare`).
-/

namespace EntityScaffold

variable {α β : Type} {R : FileTree → FileTree → Prop}

/-! ## Parts that change no tree -/

namespace Attempt

/-- An operation of a host that only looks at the world. -/
def Looks (operation : Simulation α) : Prop :=
  ∀ w, (operation w).2 = w

theorem keeps_lift [Std.Refl R] {operation : Simulation α} (h : Looks operation) :
    Keeps R (ExceptT.lift operation) := by
  refine keeps_of_world_eq fun w => ?_
  rw [runIn_lift, h w]
  exact ⟨rfl, rfl⟩

theorem keeps_mk [Std.Refl R] {operation : Simulation (Except Failure α)} (h : Looks operation) :
    Keeps R (ExceptT.mk operation) := by
  refine keeps_of_world_eq fun w => ?_
  have hworld : (runIn (ExceptT.mk operation) w).2 = w := h w
  rw [hworld]
  exact ⟨rfl, rfl⟩

theorem keeps_file [Std.Refl R] (path : Path) {operation : Simulation (Except FileCause α)}
    (h : Looks operation) : Keeps R (file path operation) := by
  refine keeps_of_world_eq fun w => ?_
  rw [runIn_file, h w]
  exact ⟨rfl, rfl⟩

theorem keeps_log [Std.Refl R] (line : Log.Line) : Keeps R (log line) :=
  keeps_of_world_eq fun _ => ⟨rfl, rfl⟩

theorem keeps_logAll [Std.Refl R] (lines : List Log.Line) : Keeps R (logAll lines) := by
  refine keeps_of_world_eq fun w => ?_
  rw [runIn_logAll]
  exact ⟨rfl, rfl⟩

theorem looks_bind {operation : Simulation α} {next : α → Simulation β} (h : Looks operation)
    (hnext : ∀ a, Looks (next a)) : Looks (operation >>= next) := by
  intro w
  have hrun : (operation >>= next) w = next (operation w).1 (operation w).2 := rfl
  rw [hrun, hnext, h]

theorem looks_pure (a : α) : Looks (pure a) :=
  fun _ => rfl

theorem looks_readText (path : Path) : Looks (readText path) := by
  refine looks_bind (fun _ => rfl) fun outcome => ?_
  cases outcome with
  | error cause => exact looks_pure _
  | ok contents =>
    simp only
    split <;> exact looks_pure _

end Attempt

/-! ## Documents -/

namespace Schema.Reader

open Attempt

theorem looks_source? (lookup : DtdLookup) (publicId : String) :
    Looks (source? lookup publicId) := by
  unfold source?
  split
  · exact looks_pure none
  · exact looks_pure none
  · exact looks_pure _
  · exact looks_bind (fun _ => rfl) fun _ => looks_pure _

theorem keeps_dtdLength [Std.Refl R] (publicId : String) (source : DtdSource) :
    Keeps R (dtdLength publicId source) := by
  cases source with
  | bundled dtd => exact Keeps.pure _
  | file location =>
    refine keeps_mk (looks_bind (looks_readText location) fun outcome => ?_)
    cases outcome <;> exact looks_pure _

variable [Std.Refl R] [Trans R R R] {parse : Xml.Parser}

theorem keeps_resolveDtd (r : Reader) (name : String) (ids : DoctypeIds) :
    Keeps R (r.resolveDtd name ids) := by
  refine (keeps_lift (looks_source? r.lookup ids.publicId)).bind fun source? => ?_
  cases source? with
  | none => exact (keeps_log _).bind fun _ => Keeps.pure none
  | some source =>
    refine (keeps_dtdLength ids.publicId source).bind fun bytes => ?_
    exact (keeps_log _).bind fun _ => Keeps.pure (some source)

/-- Reading a document changes no tree. -/
theorem keeps_read (r : Reader) (name : String) : Keeps R (r.read name) := by
  refine (keeps_file (r.locate name) (looks_readText _)).bind fun text => ?_
  split
  · exact Keeps.pure _
  · next ids _ => exact (r.keeps_resolveDtd name ids).bind fun dtd? => Keeps.pure _

theorem keeps_configuration (r : Reader) (name : String) : Keeps R (r.configuration parse name) :=
  (r.keeps_read name).bind fun _ => keeps_mk (looks_pure _)

theorem keeps_resource (r : Reader) (name : String) : Keeps R (r.resource parse name) := by
  refine (r.keeps_read name).bind fun d => ?_
  exact (keeps_logAll _).bind fun _ => keeps_mk (looks_pure _)

end Schema.Reader

/-! ## Preparation -/

namespace Conversion

open Attempt FileTree

variable {parse : Xml.Parser}

/-- A place on the way to the output directory, or the output directory itself. -/
def OnTheWay (s : Settings) (w : World) (place : Location) : Prop :=
  ∃ p ∈ (s.outputDirectory w.workingPath).ancestors, p.location w.workingDirectory = place

theorem runIn_createOutput (s : Settings) (w : World) :
    let output := s.outputDirectory w.workingPath
    let created := w.tree.createDirectories w.workingDirectory output
    (createOutput s : Attempt Simulation Path).runIn w =
      ((created.1.mapError (.file output)).map fun () => output, { w with tree := created.2 }) := by
  intro output created
  have hcreate : (file output (Host.createDirectories output) : Attempt Simulation Unit).runIn w =
      (created.1.mapError (.file output), { w with tree := created.2 }) := runIn_file output _ w
  unfold createOutput
  rw [runIn_bind, runIn_lift]
  show (file output (Host.createDirectories output) >>= fun _ => pure output :
    Attempt Simulation Path).runIn w = _
  rw [runIn_bind, hcreate]
  rcases created with ⟨cause | _, u⟩ <;> rfl

/-- Creating the output directory adds that one and those on the way to it, at the most. -/
theorem keepsFrom_createOutput (s : Settings) (w : World) :
    KeepsFrom w.workingDirectory (AddsDirectoriesAt (OnTheWay s w)) (createOutput s) := by
  intro v hv
  have hadds := v.tree.addsDirectoriesAt_createDirectories v.workingDirectory
    (s.outputDirectory v.workingPath)
  rw [runIn_createOutput]
  refine ⟨rfl, ?_⟩
  rw [World.workingPath_congr hv, hv] at hadds
  rw [World.workingPath_congr hv, hv]
  exact hadds

theorem keeps_readSchema [Std.Refl R] [Trans R R R] (s : Settings) :
    Keeps R (readSchema parse s) := by
  refine (keeps_log _).bind fun _ => ?_
  refine (Schema.Reader.keeps_configuration _ _).bind fun configuration => ?_
  refine Keeps.mapM (fun name => ?_) configuration.resources
  exact (keeps_log _).bind fun _ => Schema.Reader.keeps_resource _ name

theorem keeps_resolve [Std.Refl R] [Trans R R R] (rs : List Mapping.Resource) :
    Keeps R (resolve rs) := by
  refine (keeps_mk (looks_pure _)).bind fun hierarchy => ?_
  refine (keeps_log _).bind fun _ => ?_
  exact (keeps_log _).bind fun _ => Keeps.pure hierarchy

/-- Before the first artifact a run adds directories only, and only on the way to the output. -/
theorem keepsFrom_prepare (s : Settings) (w : World) :
    KeepsFrom w.workingDirectory (AddsDirectoriesAt (OnTheWay s w)) (prepare parse s) := by
  refine ((keeps_log _).keepsFrom _).bind fun _ => ?_
  refine (keepsFrom_createOutput s w).bind fun output => ?_
  refine ((keeps_log _).keepsFrom _).bind fun _ => ?_
  refine ((keeps_readSchema s).keepsFrom _).bind fun resources => ?_
  refine ((keeps_resolve resources).keepsFrom _).bind fun hierarchy => ?_
  exact (Keeps.pure _).keepsFrom _

theorem keeps_prepare (parse : Xml.Parser) (s : Settings) :
    Keeps AddsDirectories (prepare parse s) := by
  intro w
  obtain ⟨hdirectory, hadds⟩ := keepsFrom_prepare s w w rfl
  exact ⟨hdirectory, hadds.addsDirectories⟩

/-- A run prepares, and generates where that succeeds. -/
theorem runIn_run (s : Settings) (w : World) :
    (run parse s : Attempt Simulation Tally).runIn w =
      match (prepare parse s : Attempt Simulation _).runIn w with
      | (.error failure, v) => (.error failure, v)
      | (.ok (g, rs), v) =>
        match (generate g rs : Attempt Simulation Tally).runIn v with
        | (.error failure, u) => (.error failure, u)
        | (.ok tally, u) => (.ok tally, { u with log := u.log ++ [tally.summary] }) := by
  unfold run
  rw [runIn_bind]
  rcases (prepare parse s : Attempt Simulation _).runIn w with ⟨failure | ⟨g, rs⟩, v⟩
  · rfl
  simp only
  rw [runIn_bind]
  rcases (generate g rs : Attempt Simulation Tally).runIn v with ⟨failure | tally, u⟩
  · rfl
  · rfl

end Conversion

end EntityScaffold
