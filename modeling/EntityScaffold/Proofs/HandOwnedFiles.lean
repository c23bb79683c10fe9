import EntityScaffold.Proofs.ArtifactPaths
import EntityScaffold.Proofs.Preparation

/-!
# Files of the developer

A run changes no file but those of the generator, whatever else stands in the tree and wherever the
run fails (`hand_owned_files_survive`). Before the first artifact only directories are added; after
that every emission leaves the files alone that are not its own.
-/

namespace EntityScaffold.Conversion

open Mapping (Mapped)
open FileTree

/-- A place of the generator: the base class or the base class of the access object of an entity
goes there, provided that the run comes to generate at all. -/
def MachineOwned (parse : Xml.Parser) (s : Settings) (w : World) (place : Location) : Prop :=
  ∃ g resources prepared,
    (prepare parse s : Attempt Simulation _).runIn w = (.ok (g, resources), prepared) ∧
      ∃ p, Mapped resources p ∧ ∃ kind, (kind = .base ∨ kind = .accessBase) ∧
        (g.output.join (p.entity.filePath kind)).location w.workingDirectory = place

/-- A generation changes only files at its places. -/
theorem retains_generate (g : Generator) (rs : List Mapping.Resource) (w : World) :
    Retains (· ∈ g.ownedLocations w.workingDirectory rs) w.tree
      ((generate g rs : Attempt Simulation Tally).runIn w).2.tree := by
  obtain ⟨log, hrun⟩ := runIn_generate g rs w
  rw [hrun]
  refine (w.tree.retains_emitAll w.workingDirectory g.output (g.plan rs)).mono ?_
  intro place howned
  exact mem_ownedLocations.mpr howned

theorem retains_run (parse : Xml.Parser) (s : Settings) (w : World) :
    Retains (MachineOwned parse s w) w.tree
      ((run parse s : Attempt Simulation Tally).runIn w).2.tree := by
  obtain ⟨hdirectory, hadds⟩ := keeps_prepare parse s w
  rw [runIn_run]
  rcases hprepare : (prepare parse s : Attempt Simulation _).runIn w with
    ⟨failure | ⟨g, rs⟩, prepared⟩
  · rw [hprepare] at hadds
    exact hadds.retains _
  rw [hprepare] at hdirectory hadds
  have hgenerate := (retains_generate g rs prepared).mono (fun place hplace =>
    (⟨g, rs, prepared, hprepare, Generator.mem_ownedLocations_iff.mp (hdirectory ▸ hplace)⟩ :
      MachineOwned parse s w place))
  have hboth := (hadds.retains _).trans hgenerate
  simp only
  rcases hrun : (generate g rs : Attempt Simulation Tally).runIn prepared with ⟨failure | tally, v⟩
  · rw [hrun] at hboth
    exact hboth
  · rw [hrun] at hboth
    exact hboth

/-- Whether a run succeeds or fails, a file that is not at a place of the generator has the contents
that it had before, files remain files, and directories remain directories. -/
theorem hand_owned_files_survive (parse : Xml.Parser) (s : Settings) (w : World) :
    let after := ((run parse s : Attempt Simulation Tally).runIn w).2
    (∀ place contents, w.tree.find? place = some (.file contents) →
      ¬ MachineOwned parse s w place → after.tree.find? place = some (.file contents)) ∧
    (∀ place contents, w.tree.find? place = some (.file contents) →
      ∃ contents', after.tree.find? place = some (.file contents')) ∧
    (∀ place, w.tree.find? place = some .directory →
      after.tree.find? place = some .directory) := by
  intro after
  have hretains := retains_run parse s w
  refine ⟨fun place contents hfile hnot => ?_, fun place contents hfile => ?_,
    hretains.directory⟩
  · obtain ⟨contents', hafter, rfl | howned⟩ := hretains.file place contents hfile
    · exact hafter
    · exact absurd howned hnot
  · obtain ⟨contents', hafter, -⟩ := hretains.file place contents hfile
    exact ⟨contents', hafter⟩

end EntityScaffold.Conversion
