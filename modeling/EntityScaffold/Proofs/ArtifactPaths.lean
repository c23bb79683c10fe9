import EntityScaffold.Proofs.GenerationPlan
import EntityScaffold.Proofs.Nesting

/-!
# Paths of artifacts

Where the artifacts of an entity go depends on its type alone: on the package and on the class name
(`Entity.filePath`). The paths of a whole plan are those of the mapped entities, four for each.
-/

namespace EntityScaffold

open Mapping (Entity Mapped Placed Resource)

/-- The path of an artifact of an entity below the output directory. -/
def Mapping.Entity.filePath (e : Entity) (kind : ArtifactKind) : Path :=
  let package := e.type.package?.getD ""
  Artifact.relativePath ⟨kind, kind.package package, kind.className e.className, ""⟩

namespace Generator

/-- The paths of a plan, four for each entity. -/
theorem map_relativePath_planFrom (g : Generator) (table : List (String × Text.NameSet))
    (ps : List Placed) :
    (g.planFrom table ps).map (·.relativePath) =
      ps.flatMap fun p => ArtifactKind.all.map p.entity.filePath := by
  induction ps generalizing table with
  | nil => rfl
  | cons p ps ih =>
    rw [planFrom, List.map_append, ih, List.flatMap_cons]
    rfl

/-- The places of the generator are those of the base classes of all mapped entities. -/
theorem mem_ownedLocations_iff {g : Generator} {workingDirectory place : Location}
    {rs : List Resource} :
    place ∈ g.ownedLocations workingDirectory rs ↔
      ∃ p, Mapped rs p ∧ ∃ kind, (kind = .base ∨ kind = .accessBase) ∧
        (g.output.join (p.entity.filePath kind)).location workingDirectory = place := by
  have hpolicy (kind : ArtifactKind) :
      kind.policy = .overwrite ↔ kind = .base ∨ kind = .accessBase := by
    cases kind <;> decide
  unfold ownedLocations
  rw [FileTree.mem_ownedLocations]
  constructor
  · rintro ⟨a, ha, howned, hplace⟩
    obtain ⟨p, hp, shown, kind, rfl⟩ := mem_planFrom ha
    exact ⟨p, Mapping.mem_placed_iff.mp hp, kind, (hpolicy kind).mp howned, hplace⟩
  · rintro ⟨p, hp, kind, hkind, hplace⟩
    obtain ⟨shown, ha⟩ := g.exists_mem_planFrom [] (Mapping.mem_placed_iff.mpr hp) kind
    exact ⟨_, ha, (hpolicy kind).mpr hkind, hplace⟩

end Generator

end EntityScaffold
