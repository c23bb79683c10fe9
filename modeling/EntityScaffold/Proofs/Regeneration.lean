import EntityScaffold.Proofs.GenerationPlan
import EntityScaffold.Proofs.KeyAgreement

/-!
# Regeneration

A generation that comes to an end can be repeated (`regeneration_idempotent`): the second one comes
to an end as well and leaves every file and directory as the first one did. Half of its artifacts
belong to the developer and are preserved. The others find the contents that they bring or, where
several go to one place, are written over each other once more.
-/

namespace EntityScaffold

open Mapping (Placed Resource)

/-! ## Counting outcomes -/

/-- A tally counts the outcomes that it records. -/
theorem counts_foldl_record (outcomes : List Outcome) (tally : Tally) :
    let after := outcomes.foldl Tally.record tally
    after.preserved = tally.preserved + outcomes.countP (·.isPreserved) ∧
      after.written + after.unchanged =
        tally.written + tally.unchanged + outcomes.countP (fun o => !o.isPreserved) := by
  induction outcomes generalizing tally with
  | nil => exact ⟨rfl, rfl⟩
  | cons outcome outcomes ih =>
    obtain ⟨hpreserved, hothers⟩ := ih (tally.record outcome)
    simp only [List.foldl_cons, List.countP_cons]
    rw [hpreserved, hothers]
    cases outcome <;> simp [Tally.record, Outcome.isPreserved] <;> omega

theorem written_of_none_written {outcomes : List Outcome} (h : ∀ o ∈ outcomes, o ≠ .written)
    (tally : Tally) : (outcomes.foldl Tally.record tally).written = tally.written := by
  induction outcomes generalizing tally with
  | nil => rfl
  | cons outcome outcomes ih =>
    obtain ⟨hfirst, hrest⟩ := List.forall_mem_cons.mp h
    rw [List.foldl_cons, ih hrest]
    cases outcome with
    | written => exact absurd rfl hfirst
    | unchanged => rfl
    | preserved => rfl

namespace Generator

/-- Half of the artifacts of an entity are of each policy. -/
theorem countP_policy_planFrom (g : Generator) (policy : WritePolicy)
    (table : List (String × Text.NameSet)) (ps : List Placed) :
    (g.planFrom table ps).countP (·.kind.policy = policy) = 2 * ps.length := by
  induction ps generalizing table with
  | nil => rfl
  | cons p ps ih =>
    have hfirst : (g.artifactsOf table p).countP (·.kind.policy = policy) = 2 := by
      cases policy <;> rfl
    rw [planFrom, List.countP_append, hfirst, ih, List.length_cons]
    omega

end Generator

namespace Conversion

open Generator (countP_policy_planFrom)

/-- When the preserved outcomes are the ones of create-once artifacts, they are half of the plan. -/
theorem counts_of_policies {g : Generator} {rs : List Resource} {outcomes : List Outcome}
    (h : outcomes.map (·.isPreserved) =
      (g.plan rs).map fun a => decide (a.kind.policy = .createOnly)) :
    let after := outcomes.foldl Tally.record {}
    after.preserved = 2 * (rs.flatMap (·.placed)).length ∧
      after.written + after.unchanged = 2 * (rs.flatMap (·.placed)).length := by
  have hcreated := countP_policy_planFrom g .createOnly [] (rs.flatMap (·.placed))
  have howned := countP_policy_planFrom g .overwrite [] (rs.flatMap (·.placed))
  have hpreserved : outcomes.countP (·.isPreserved) = 2 * (rs.flatMap (·.placed)).length := by
    have hbools := congrArg (List.countP id) h
    rw [List.countP_map, List.countP_map] at hbools
    exact hbools.trans hcreated
  have hothers : outcomes.countP (fun o => !o.isPreserved) =
      2 * (rs.flatMap (·.placed)).length := by
    have hbools := congrArg (List.countP not) h
    rw [List.countP_map, List.countP_map] at hbools
    refine hbools.trans (Eq.trans (List.countP_congr fun a _ => ?_) howned)
    cases hpolicy : a.kind.policy <;> simp [hpolicy]
  obtain ⟨hfirst, hrest⟩ := counts_foldl_record outcomes {}
  rw [hpreserved] at hfirst
  rw [hothers] at hrest
  exact ⟨hfirst.trans (Nat.zero_add _), hrest.trans (Nat.zero_add _)⟩

/-- A generation that comes to an end, and what its end says about its plan. -/
theorem generate_eq_ok {g : Generator} {rs : List Resource} {w w₁ : World} {tally : Tally}
    (h : (generate g rs : Attempt Simulation Tally).runIn w = (.ok tally, w₁)) :
    let e := w.tree.emitAll w.workingDirectory g.output (g.plan rs)
    e.failure? = none ∧ tally = tallyOf e.outcomes ∧ w₁.tree = e.tree ∧
      w₁.workingDirectory = w.workingDirectory := by
  obtain ⟨log, hrun⟩ := runIn_generate g rs w
  rw [hrun] at h
  simp only
  generalize w.tree.emitAll w.workingDirectory g.output (g.plan rs) = e at h ⊢
  unfold Emissions.result at h
  cases hfailure : e.failure? with
  | some failure =>
    rw [hfailure] at h
    cases h
  | none =>
    rw [hfailure] at h
    cases h
    exact ⟨rfl, rfl, rfl, rfl⟩

/-- A generation comes to an end when all of its plan can be emitted. -/
theorem generate_of_failure?_eq_none {g : Generator} {rs : List Resource} {w : World}
    (h : (w.tree.emitAll w.workingDirectory g.output (g.plan rs)).failure? = none) :
    ∃ tally w₁, (generate g rs : Attempt Simulation Tally).runIn w = (.ok tally, w₁) := by
  obtain ⟨log, hrun⟩ := runIn_generate g rs w
  rw [Emissions.result, h] at hrun
  exact ⟨_, _, hrun⟩

/-- A generation that comes to an end reports the number of entities. -/
theorem entities_of_generate {g : Generator} {rs : List Resource} {w w₁ : World} {tally : Tally}
    (h : (generate g rs : Attempt Simulation Tally).runIn w = (.ok tally, w₁)) :
    tally.entities = (rs.flatMap (·.placed)).length := by
  obtain ⟨hend, rfl, -, -⟩ := generate_eq_ok h
  have hlength := (w.tree.length_outcomes_emitAll w.workingDirectory g.output (g.plan rs)).1 hend
  have hplan := g.length_planFrom [] (rs.flatMap (·.placed))
  rw [← Generator.plan] at hplan
  simp only [tallyOf]
  omega

/-- Generating again, from the tree that a generation left, succeeds and leaves the same tree. As
many entities are reported; two of the four files of each are preserved, and none is written if no
two files of the generator go to one place. -/
theorem regeneration_idempotent {g : Generator} {rs : List Resource} {w w₁ w₂ : World}
    {first : Tally}
    (hfirst : (generate g rs : Attempt Simulation Tally).runIn w = (.ok first, w₁))
    (htree : w₂.tree = w₁.tree) (hdirectory : w₂.workingDirectory = w₁.workingDirectory) :
    ∃ second w₃, (generate g rs : Attempt Simulation Tally).runIn w₂ = (.ok second, w₃) ∧
      w₃.tree.Same w₁.tree ∧
      second.entities = first.entities ∧
      second.preserved = 2 * first.entities ∧
      second.written + second.unchanged = 2 * first.entities ∧
      ((g.ownedLocations w.workingDirectory rs).Nodup → second.written = 0) := by
  have hentities := entities_of_generate hfirst
  obtain ⟨hend, -, hw₁, hstays⟩ := generate_eq_ok hfirst
  obtain ⟨log, hsecond⟩ := runIn_generate g rs w₂
  rw [htree, hw₁, hdirectory, hstays] at hsecond
  obtain ⟨hfailure, hsame, houtcomes⟩ := FileTree.emitAll_again hend
  have hwritten := FileTree.none_written_emitAll_again hend
  rw [Emissions.result, hfailure] at hsecond
  obtain ⟨hpreserved, howned⟩ := counts_of_policies houtcomes
  refine ⟨_, _, hsecond, ?_, ?_, ?_, ?_, ?_⟩
  · rw [hw₁]
    exact hsame
  · rw [entities_of_generate hsecond, hentities]
  · rw [hentities]
    exact hpreserved
  · rw [hentities]
    exact howned
  · intro hnodup
    exact written_of_none_written (hwritten hnodup) {}

/-- The generator of the school below `out`. -/
def schoolGenerator : Generator :=
  ⟨Scaffold.schoolHierarchy, ⟨"out"⟩, some "// school"⟩

/-- A world with nothing but a working directory. -/
def freshWorld : World :=
  ⟨⟨[(["work"], .directory)]⟩, ["work"], []⟩

/-- The documents of the school that map a class and one derived from it. -/
def nestedResources : List Resource :=
  [⟨"Person.hbm.xml", some "school", [Scaffold.person]⟩]

theorem regeneration_idempotent_school :
    ∃ first w₁, (generate schoolGenerator nestedResources : Attempt Simulation Tally).runIn
        freshWorld = (.ok first, w₁) ∧ first.entities = 2 ∧
      ∃ second w₂, (generate schoolGenerator nestedResources : Attempt Simulation Tally).runIn
          w₁ = (.ok second, w₂) ∧
        w₂.tree.Same w₁.tree ∧ second.entities = 2 ∧ second.preserved = 4 ∧
        second.written = 0 ∧ second.unchanged = 4 := by
  have hend : (freshWorld.tree.emitAll freshWorld.workingDirectory schoolGenerator.output
      (schoolGenerator.plan nestedResources)).failure? = none :=
    Option.isNone_iff_eq_none.mp (by decide +kernel)
  have hnodup : (schoolGenerator.ownedLocations freshWorld.workingDirectory
      nestedResources).Nodup := by decide +kernel
  obtain ⟨first, w₁, hfirst⟩ := generate_of_failure?_eq_none hend
  have htwo : first.entities = 2 := entities_of_generate hfirst
  obtain ⟨second, w₂, hsecond, hsame, hentities, hpreserved, hothers, hwritten⟩ :=
    regeneration_idempotent hfirst rfl rfl
  rw [htwo] at hentities hpreserved hothers
  have hzero := hwritten hnodup
  exact ⟨first, w₁, hfirst, htwo, second, w₂, hsecond, hsame, hentities, hpreserved, hzero,
    by omega⟩

end Conversion

end EntityScaffold
