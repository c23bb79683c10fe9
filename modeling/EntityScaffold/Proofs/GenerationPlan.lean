import EntityScaffold.Conversion
import EntityScaffold.Proofs.Emissions

/-!
# The plan of a generation

Which artifacts a generator emits, and in which order, does not depend on any tree: it is planned
(`Generator.plan`). A run of the generator is the emission of its plan, and what it reports is read
off the outcomes (`runIn_generate`), also when it fails in the middle. A class is complete, and
counted, when its four artifacts have an outcome.
-/

namespace EntityScaffold

open Mapping (Placed Resource)
open Text (NameSet)

/-! ## The names shown -/

/-- The names to show for an entity when these are the ones of the complete classes. -/
def shownAt (table : List (String × NameSet)) (p : Placed) : NameSet :=
  ((p.parent?.bind fun parent => table.lookup parent.className).getD .empty).insertAll
    p.entity.shownNames

/-- The names shown for the complete classes after some more entities. -/
def shownAfter (table : List (String × NameSet)) (ps : List Placed) : List (String × NameSet) :=
  ps.foldl (fun table p => (p.entity.className, shownAt table p) :: table) table

namespace Generator

/-! ## The plan -/

/-- The artifacts of an entity, given the names shown for the complete classes. -/
def artifactsOf (g : Generator) (table : List (String × NameSet)) (p : Placed) : List Artifact :=
  (Scaffold.ofPlaced g.hierarchy (shownAt table p) p).artifacts g.header?

/-- The artifacts of entities in the order of generation. -/
def planFrom (g : Generator) (table : List (String × NameSet)) : List Placed → List Artifact
  | [] => []
  | p :: ps =>
    g.artifactsOf table p ++ g.planFrom ((p.entity.className, shownAt table p) :: table) ps

/-- The artifacts of all entities of the documents in the order of generation. -/
def plan (g : Generator) (rs : List Resource) : List Artifact :=
  g.planFrom [] (rs.flatMap (·.placed))

/-- The locations of all files that belong to the generator. -/
def ownedLocations (g : Generator) (workingDirectory : Location) (rs : List Resource) :
    List Location :=
  FileTree.ownedLocations workingDirectory g.output (g.plan rs)

theorem length_artifactsOf (g : Generator) (table : List (String × NameSet)) (p : Placed) :
    (g.artifactsOf table p).length = 4 :=
  rfl

theorem planFrom_append (g : Generator) (table : List (String × NameSet)) (ps qs : List Placed) :
    g.planFrom table (ps ++ qs) = g.planFrom table ps ++ g.planFrom (shownAfter table ps) qs := by
  induction ps generalizing table with
  | nil => rfl
  | cons p ps ih =>
    rw [List.cons_append, planFrom, planFrom, ih, List.append_assoc]
    rfl

theorem length_planFrom (g : Generator) (table : List (String × NameSet)) (ps : List Placed) :
    (g.planFrom table ps).length = 4 * ps.length := by
  induction ps generalizing table with
  | nil => rfl
  | cons p ps ih =>
    rw [planFrom, List.length_append, length_artifactsOf, ih, List.length_cons]
    omega

/-- Every planned artifact is one of a planned entity. -/
theorem mem_planFrom {g : Generator} {table : List (String × NameSet)} {ps : List Placed}
    {a : Artifact} (h : a ∈ g.planFrom table ps) :
    ∃ p ∈ ps, ∃ shown kind,
      a = (Scaffold.ofPlaced g.hierarchy shown p).artifact g.header? kind := by
  induction ps generalizing table with
  | nil => exact absurd h List.not_mem_nil
  | cons p ps ih =>
    rw [planFrom] at h
    rcases List.mem_append.mp h with h | h
    · obtain ⟨kind, -, rfl⟩ := List.mem_map.mp h
      exact ⟨p, List.mem_cons_self, shownAt table p, kind, rfl⟩
    · obtain ⟨q, hq, hartifact⟩ := ih h
      exact ⟨q, List.mem_cons_of_mem p hq, hartifact⟩

/-- Every planned entity has an artifact of each kind. -/
theorem exists_mem_planFrom (g : Generator) (table : List (String × NameSet)) {ps : List Placed}
    {p : Placed} (hp : p ∈ ps) (kind : ArtifactKind) :
    ∃ shown, (Scaffold.ofPlaced g.hierarchy shown p).artifact g.header? kind ∈
      g.planFrom table ps := by
  induction ps generalizing table with
  | nil => exact absurd hp List.not_mem_nil
  | cons q ps ih =>
    rw [planFrom]
    rcases List.mem_cons.mp hp with rfl | hp
    · refine ⟨shownAt table p, List.mem_append_left _ (List.mem_map.mpr ⟨kind, ?_, rfl⟩)⟩
      cases kind <;> decide
    · obtain ⟨shown, hartifact⟩ := ih ((q.entity.className, shownAt table q) :: table) hp
      exact ⟨shown, List.mem_append_right _ hartifact⟩

end Generator

/-! ## Progress -/

namespace Progress

/-- The progress after artifacts of the given outcomes, where `ps` are the entities at hand. -/
def after (progress : Progress) (ps : List Placed) (outcomes : List Outcome) : Progress where
  tally := { outcomes.foldl Tally.record progress.tally with
    entities := progress.tally.entities + outcomes.length / 4 }
  shown := shownAfter progress.shown (ps.take (outcomes.length / 4))

theorem after_nil (progress : Progress) (ps : List Placed) : progress.after ps [] = progress := by
  unfold after
  rw [List.length_nil, Nat.zero_div, List.take_zero]
  rfl

theorem entities_foldl_record (outcomes : List Outcome) (tally : Tally) :
    (outcomes.foldl Tally.record tally).entities = tally.entities := by
  induction outcomes generalizing tally with
  | nil => rfl
  | cons outcome outcomes ih =>
    rw [List.foldl_cons, ih]
    cases outcome <;> rfl

theorem files_foldl_record (outcomes : List Outcome) (tally : Tally) :
    (outcomes.foldl Tally.record tally).files = tally.files + outcomes.length := by
  induction outcomes generalizing tally with
  | nil => rfl
  | cons outcome outcomes ih =>
    rw [List.foldl_cons, ih, Tally.files_record, List.length_cons]
    omega

theorem foldl_record_entities (outcomes : List Outcome) (tally : Tally) (n : Nat) :
    outcomes.foldl Tally.record { tally with entities := n } =
      { outcomes.foldl Tally.record tally with entities := n } := by
  induction outcomes generalizing tally with
  | nil => rfl
  | cons outcome outcomes ih =>
    rw [List.foldl_cons, List.foldl_cons, ← ih]
    cases outcome <;> rfl

/-- The progress with some entities is continued from where all of them are complete. -/
theorem after_append {ps : List Placed} {outcomes : List Outcome}
    (h : outcomes.length = 4 * ps.length) (progress : Progress) (qs : List Placed)
    (more : List Outcome) :
    (progress.after ps outcomes).after qs more = progress.after (ps ++ qs) (outcomes ++ more) := by
  have hdone : outcomes.length / 4 = ps.length := by omega
  have hall : (outcomes ++ more).length / 4 = ps.length + more.length / 4 := by
    rw [List.length_append, h]
    omega
  unfold after
  rw [hall, hdone, foldl_record_entities, List.foldl_append, List.take_length_add_append,
    List.take_length, shownAfter, shownAfter, shownAfter, List.foldl_append, Nat.add_assoc]

/-- Entities that are not reached do not matter. -/
theorem after_of_length_lt {ps : List Placed} {outcomes : List Outcome}
    (h : outcomes.length < 4 * ps.length) (progress : Progress) (qs : List Placed) :
    progress.after (ps ++ qs) outcomes = progress.after ps outcomes := by
  have hle : outcomes.length / 4 ≤ ps.length := by omega
  unfold after
  rw [List.take_append_of_le_length hle]

end Progress

/-! ## Runs -/

namespace Generator

open Generation (runIn runIn_bind runIn_pure runIn_attempt runIn_modify runIn_get)
open Progress (entities_foldl_record)

/-- Every run of `x` emits the artifacts planned for `ps` and makes the progress that the outcomes
tell. -/
def Generates (g : Generator) (x : Generation Simulation Unit) (ps : List Placed) : Prop :=
  ∀ progress w,
    let e := w.tree.emitAll w.workingDirectory g.output (g.planFrom progress.shown ps)
    ∃ log, runIn x progress w =
      ((e.result, progress.after ps e.outcomes), ⟨e.tree, w.workingDirectory, log⟩)

variable {g : Generator} {x y : Generation Simulation Unit} {ps qs : List Placed}

theorem Generates.pure : Generates g (Pure.pure ()) [] := by
  intro progress w
  simp only [planFrom, FileTree.emitAll, Progress.after_nil]
  exact ⟨w.log, rfl⟩

/-- An attempt that only adds to the log generates nothing. -/
theorem generates_attempt {z : Attempt Simulation Unit}
    (hz : ∀ w, ∃ log, z.runIn w = (.ok (), { w with log := log })) :
    Generates g (attempt z) [] := by
  intro progress w
  obtain ⟨log, hlog⟩ := hz w
  simp only [planFrom, FileTree.emitAll, Progress.after_nil]
  refine ⟨log, ?_⟩
  rw [runIn_attempt, hlog]
  rfl

/-- What runs after a complete generation continues it. -/
theorem Generates.append (hx : Generates g x ps) (hy : Generates g y qs) :
    Generates g (x >>= fun _ => y) (ps ++ qs) := by
  intro progress w
  obtain ⟨log, hfirst⟩ := hx progress w
  have hlength := w.tree.length_outcomes_emitAll w.workingDirectory g.output
    (g.planFrom progress.shown ps)
  rw [length_planFrom] at hlength
  simp only
  rw [runIn_bind, hfirst, planFrom_append, FileTree.emitAll_append]
  generalize w.tree.emitAll w.workingDirectory g.output (g.planFrom progress.shown ps) = e
    at hfirst hlength ⊢
  unfold Emissions.result Emissions.andThen
  cases hfailure : e.failure? with
  | some failure =>
    refine ⟨log, ?_⟩
    simp only [hfailure]
    rw [Progress.after_of_length_lt (hlength.2 failure hfailure)]
  | none =>
    have hcomplete := hlength.1 hfailure
    obtain ⟨log', hsecond⟩ := hy (progress.after ps e.outcomes)
      ⟨e.tree, w.workingDirectory, log⟩
    -- the second part starts with the names shown for all entities of the first
    have hshown : (progress.after ps e.outcomes).shown = shownAfter progress.shown ps := by
      have hdone : e.outcomes.length / 4 = ps.length := by omega
      rw [Progress.after, hdone, List.take_length]
    rw [hshown] at hsecond
    refine ⟨log', ?_⟩
    simp only
    rw [hsecond, Progress.after_append hcomplete]
    rfl

theorem runIn_emit (g : Generator) (a : Artifact) (progress : Progress) (w : World) :
    ∃ log, runIn (g.emit a) progress w =
      match w.tree.emit w.workingDirectory g.output a with
      | (.ok outcome, u) =>
        ((.ok (), progress.record outcome), ⟨u, w.workingDirectory, log⟩)
      | (.error failure, u) => ((.error failure, progress), ⟨u, w.workingDirectory, log⟩) := by
  obtain ⟨log, hemit⟩ := Artifact.runIn_emit g.output a w
  refine ⟨log, ?_⟩
  unfold emit
  rw [runIn_bind, runIn_attempt, hemit]
  rcases w.tree.emit w.workingDirectory g.output a with ⟨failure | outcome, u⟩
  · rfl
  · rfl

theorem runIn_forM_emit (g : Generator) (as : List Artifact) (progress : Progress) (w : World) :
    let e := w.tree.emitAll w.workingDirectory g.output as
    ∃ log, runIn (as.forM g.emit) progress w =
      ((e.result, { progress with tally := e.outcomes.foldl Tally.record progress.tally }),
        ⟨e.tree, w.workingDirectory, log⟩) := by
  induction as generalizing progress w with
  | nil => exact ⟨w.log, rfl⟩
  | cons a as ih =>
    obtain ⟨log, hemit⟩ := g.runIn_emit a progress w
    have hcons : (a :: as).forM g.emit =
        (g.emit a >>= fun _ => as.forM g.emit : Generation Simulation Unit) := rfl
    rw [hcons, runIn_bind, hemit, FileTree.emitAll]
    rcases w.tree.emit w.workingDirectory g.output a with ⟨failure | outcome, u⟩
    · exact ⟨log, rfl⟩
    · exact ih (progress.record outcome) ⟨u, w.workingDirectory, log⟩

theorem generates_entity (g : Generator) (p : Placed) : Generates g (g.entity p) [p] := by
  intro progress w
  have hplan : g.planFrom progress.shown [p] = g.artifactsOf progress.shown p :=
    List.append_nil _
  have hlength := w.tree.length_outcomes_emitAll w.workingDirectory g.output
    (g.artifactsOf progress.shown p)
  obtain ⟨log, hartifacts⟩ := g.runIn_forM_emit (g.artifactsOf progress.shown p) progress
    { w with log := w.log ++ announcement p }
  have hsame : (Scaffold.ofPlaced g.hierarchy (progress.shownFor p) p).artifacts g.header? =
      g.artifactsOf progress.shown p := rfl
  simp only [hplan]
  simp only at hartifacts hlength
  unfold entity
  rw [runIn_bind, runIn_attempt, Attempt.runIn_logAll]
  simp only
  rw [runIn_bind, runIn_get]
  simp only
  rw [runIn_bind, hsame, hartifacts]
  generalize w.tree.emitAll w.workingDirectory g.output (g.artifactsOf progress.shown p) = e
    at hlength ⊢
  rw [length_artifactsOf] at hlength
  refine ⟨log, ?_⟩
  unfold Emissions.result Progress.after
  cases hfailure : e.failure? with
  | some failure =>
    have hnone : e.outcomes.length / 4 = 0 := by
      have := hlength.2 failure hfailure
      omega
    rw [hnone, Nat.add_zero, ← entities_foldl_record e.outcomes]
    rfl
  | none =>
    have hone : e.outcomes.length / 4 = 1 := by
      have := hlength.1 hfailure
      omega
    rw [hone, ← entities_foldl_record e.outcomes]
    rfl

/-- Generating the classes of all entities of a document, or of any others. -/
theorem generates_forM_entity (g : Generator) (ps : List Placed) :
    Generates g (ps.forM g.entity) ps := by
  induction ps with
  | nil => exact .pure
  | cons p ps ih => exact (g.generates_entity p).append ih

theorem generates_forM_process (g : Generator) (rs : List Resource) :
    Generates g (rs.forM (Conversion.process g)) (rs.flatMap (·.placed)) := by
  induction rs with
  | nil => exact .pure
  | cons r rs ih =>
    have hline : Generates g
        (attempt (Attempt.log (.info ("Processing " ++ r.path ++ " ...")))) [] :=
      generates_attempt fun w => ⟨_, Attempt.runIn_log _ w⟩
    have hresource : Generates g (Conversion.process g r) r.placed :=
      hline.append (g.generates_forM_entity r.placed)
    exact hresource.append ih

end Generator

namespace Conversion

/-- What a generation reports that came to an end. -/
def tallyOf (outcomes : List Outcome) : Tally :=
  { outcomes.foldl Tally.record {} with entities := outcomes.length / 4 }

/-- A generation is the emission of its plan, also when it fails. -/
theorem runIn_generate (g : Generator) (rs : List Resource) (w : World) :
    let e := w.tree.emitAll w.workingDirectory g.output (g.plan rs)
    ∃ log, (generate g rs : Attempt Simulation Tally).runIn w =
      (e.result.map fun () => tallyOf e.outcomes, ⟨e.tree, w.workingDirectory, log⟩) := by
  obtain ⟨log, hrun⟩ := g.generates_forM_process rs {} w
  refine ⟨log, ?_⟩
  have hgenerate : (generate g rs : Attempt Simulation Tally).runIn w =
      match Generation.runIn (rs.forM (process g)) {} w with
      | ((outcome, progress), v) => (outcome.map fun () => progress.tally, v) := rfl
  rw [hgenerate, hrun]
  simp only [Progress.after, tallyOf, Nat.zero_add]
  rfl

end Conversion

end EntityScaffold
