import EntityScaffold.Proofs.GenerationPlan

/-!
# Progress on any host

A host may fail at any operation, and it may change between two operations in any way. Which
artifacts are emitted is told by the emissions themselves (`emittedOf`, `emittedFrom`): an artifact
is emitted if this succeeds in the state in which its turn comes. Whatever the host does, these are
the first ones of the plan, and what a generation records does not depend on more than how many they
are (`Advances`): a class is complete with its fourth artifact, and a generation that fails has not
come to the end of its plan.
-/

namespace EntityScaffold.Generator

open Generation (runIn runIn_bind runIn_get runIn_modify)
open Mapping (Placed)
open Progress (entities_foldl_record)

variable {σ : Type}

/-! ## What is emitted -/

section Emitted

variable [Host (StateM σ)]

/-- Of some artifacts the ones that are emitted, one after the other, up to the first that cannot
be. -/
def emittedOf (g : Generator) : List Artifact → σ → List Artifact
  | [], _ => []
  | a :: as, s =>
    let emission := (a.emit g.output : Attempt (StateM σ) Outcome).run s
    if emission.1.isOk then a :: g.emittedOf as emission.2 else []

/-- What is emitted for an entity, which is announced first. -/
def emittedFor (g : Generator) (p : Placed) (progress : Progress) (s : σ) : List Artifact :=
  let announced := (Attempt.logAll (announcement p) : Attempt (StateM σ) Unit).run s
  g.emittedOf (g.artifactsOf progress.shown p) announced.2

/-- What is emitted for entities, one after the other, up to the first with which it fails. -/
def emittedFrom (g : Generator) : List Placed → Progress → σ → List Artifact
  | [], _, _ => []
  | p :: ps, progress, s =>
    g.emittedFor p progress s ++
      match runIn (g.entity p) progress s with
      | ((.ok (), after), s') => g.emittedFrom ps after s'
      | ((.error _, _), _) => []

end Emitted

/-! ## Progress -/

/-- In every run of `x` the emitted artifacts are the first ones of those planned for the entities
`ps`, and all of them unless it fails. The progress that it makes is told by their outcomes. -/
def Advances (g : Generator) (x : Generation (StateM σ) Unit)
    (emitted : Progress → σ → List Artifact) (ps : List Placed) : Prop :=
  ∀ progress s, ∃ outcomes : List Outcome,
    (runIn x progress s).1.2 = progress.after ps outcomes ∧
      emitted progress s = (g.planFrom progress.shown ps).take outcomes.length ∧
      ((runIn x progress s).1.1 = .ok () → outcomes.length = 4 * ps.length) ∧
      ∀ failure, (runIn x progress s).1.1 = .error failure → outcomes.length < 4 * ps.length

variable {g : Generator} {x y : Generation (StateM σ) Unit}
  {emitted emitted' : Progress → σ → List Artifact} {ps qs : List Placed}

theorem Advances.append (hx : Advances g x emitted ps) (hy : Advances g y emitted' qs) :
    Advances g (x >>= fun _ => y)
      (fun progress s => emitted progress s ++
        match runIn x progress s with
        | ((.ok (), after), s') => emitted' after s'
        | ((.error _, _), _) => [])
      (ps ++ qs) := by
  intro progress s
  obtain ⟨outcomes, hprogress, hemitted, hall, hsome⟩ := hx progress s
  have hplan := g.length_planFrom progress.shown ps
  rw [runIn_bind]
  rcases hrun : runIn x progress s with ⟨⟨failure | u, after⟩, s'⟩
  · rw [hrun] at hprogress hsome
    have hlt : outcomes.length < 4 * ps.length := hsome failure rfl
    refine ⟨outcomes, ?_, ?_, nofun, fun _ _ => ?_⟩
    · rw [Progress.after_of_length_lt hlt]
      exact hprogress
    · simp only [hrun]
      rw [hemitted, planFrom_append, List.append_nil, List.take_append_of_le_length (by omega)]
    · rw [List.length_append]
      omega
  · rw [hrun] at hprogress hall
    have hfirst : outcomes.length = 4 * ps.length := hall rfl
    obtain ⟨more, hprogress', hemitted', hall', hsome'⟩ := hy after s'
    have hafter : after = progress.after ps outcomes := hprogress
    have hshown : after.shown = shownAfter progress.shown ps := by
      rw [hafter, Progress.after, hfirst, Nat.mul_div_cancel_left _ (by decide), List.take_length]
    refine ⟨outcomes ++ more, ?_, ?_, fun hok => ?_, fun failure herror => ?_⟩
    · rw [← Progress.after_append hfirst, ← hafter]
      exact hprogress'
    · have htake : outcomes.length = (g.planFrom progress.shown ps).length :=
        hfirst.trans hplan.symm
      simp only [hrun]
      rw [hemitted, hemitted', hshown, planFrom_append, List.length_append, htake,
        List.take_length_add_append, List.take_length]
    · have := hall' hok
      rw [List.length_append, List.length_append]
      omega
    · have := hsome' failure herror
      rw [List.length_append, List.length_append]
      omega

theorem advances_pure :
    Advances g (pure () : Generation (StateM σ) Unit) (fun _ _ => []) [] := by
  intro progress s
  exact ⟨[], (progress.after_nil []).symm, rfl, fun _ => rfl, nofun⟩

/-- An attempt makes no progress. -/
theorem runIn_attempt_run {α : Type} (z : Attempt (StateM σ) α) (progress : Progress) (s : σ) :
    runIn (attempt z) progress s = (((z.run s).1, progress), (z.run s).2) :=
  rfl

variable [Host (StateM σ)]

theorem run_logAll (lines : List Log.Line) (s : σ) :
    ((Attempt.logAll lines : Attempt (StateM σ) Unit).run s).1 = .ok () := by
  induction lines generalizing s with
  | nil => rfl
  | cons line lines ih => exact ih ((Host.log line : StateM σ Unit) s).2

/-- Emitting an artifact ends as the emission does, and its outcome is recorded. -/
theorem runIn_emit_eq (g : Generator) (a : Artifact) (progress : Progress) (s : σ) :
    runIn (g.emit a) progress s =
      match (a.emit g.output : Attempt (StateM σ) Outcome).run s with
      | (.ok outcome, s') => ((.ok (), progress.record outcome), s')
      | (.error failure, s') => ((.error failure, progress), s') := by
  have hbind : runIn (g.emit a) progress s =
      runIn (attempt (a.emit g.output) >>= fun outcome => modify (·.record outcome)) progress s :=
    rfl
  rw [hbind, runIn_bind, runIn_attempt_run]
  rcases (a.emit g.output : Attempt (StateM σ) Outcome).run s with ⟨failure | outcome, s'⟩
  · rfl
  · rfl

theorem runIn_forM_emit_cases (g : Generator) (as : List Artifact) (progress : Progress) (s : σ) :
    ∃ (outcomes : List Outcome) (result : Except Failure Unit) (s' : σ),
      runIn (as.forM g.emit) progress s =
        ((result, { progress with tally := outcomes.foldl Tally.record progress.tally }), s') ∧
      g.emittedOf as s = as.take outcomes.length ∧
      (result = .ok () → outcomes.length = as.length) ∧
      ∀ failure, result = .error failure → outcomes.length < as.length := by
  induction as generalizing progress s with
  | nil => exact ⟨[], .ok (), s, rfl, rfl, fun _ => rfl, nofun⟩
  | cons a as ih =>
    have hcons : (a :: as).forM g.emit =
        (g.emit a >>= fun _ => as.forM g.emit : Generation (StateM σ) Unit) := rfl
    rw [hcons, runIn_bind, runIn_emit_eq, emittedOf]
    rcases (a.emit g.output : Attempt (StateM σ) Outcome).run s with ⟨failure | outcome, s'⟩
    · exact ⟨[], .error failure, s', rfl, rfl, nofun, fun _ _ => Nat.succ_pos _⟩
    · obtain ⟨outcomes, result, s'', hrest, hemitted, hall, hsome⟩ :=
        ih (progress.record outcome) s'
      refine ⟨outcome :: outcomes, result, s'', hrest, ?_, fun hok => ?_, fun failure herror => ?_⟩
      · exact congrArg (a :: ·) hemitted
      · exact congrArg Nat.succ (hall hok)
      · exact Nat.succ_lt_succ (hsome failure herror)

theorem advances_entity (g : Generator) (p : Placed) :
    Advances g (g.entity p : Generation (StateM σ) Unit) (g.emittedFor p) [p] := by
  intro progress s
  have hlog := run_logAll (announcement p) s
  rcases hlogged : (Attempt.logAll (announcement p) : Attempt (StateM σ) Unit).run s with ⟨r, s₁⟩
  rw [hlogged] at hlog
  have hr : r = .ok () := hlog
  obtain ⟨outcomes, result, s₂, hartifacts, hemitted, hall, hsome⟩ :=
    g.runIn_forM_emit_cases (g.artifactsOf progress.shown p) progress s₁
  rw [length_artifactsOf] at hall hsome
  have hrun : runIn (g.entity p) progress s =
      runIn ((g.artifactsOf progress.shown p).forM g.emit >>= fun _ =>
        modify (·.finish p.entity.className (progress.shownFor p))) progress s₁ := by
    unfold entity
    rw [runIn_bind, runIn_attempt_run, hlogged, hr]
    simp only
    rw [runIn_bind, runIn_get]
    rfl
  have hplanned : g.emittedFor p progress s =
      (g.planFrom progress.shown [p]).take outcomes.length := by
    rw [emittedFor, hlogged, planFrom, planFrom, List.append_nil]
    exact hemitted
  rw [runIn_bind, hartifacts] at hrun
  -- the entity is finished only when all four artifacts have an outcome
  cases result with
  | error failure =>
    have hlt : outcomes.length < 4 := hsome failure rfl
    have hnone : outcomes.length / 4 = 0 := Nat.div_eq_of_lt hlt
    refine ⟨outcomes, ?_, hplanned, ?_, fun _ _ => hlt⟩
    · rw [hrun, Progress.after, hnone, Nat.add_zero, ← entities_foldl_record outcomes]
      rfl
    · rw [hrun]
      intro hok
      cases hok
  | ok =>
    have hfour : outcomes.length = 4 := hall rfl
    have hone : outcomes.length / 4 = 1 := by rw [hfour]
    refine ⟨outcomes, ?_, hplanned, fun _ => hfour, ?_⟩
    · rw [hrun, Progress.after, hone, ← entities_foldl_record outcomes]
      rfl
    · rw [hrun]
      intro failure herror
      cases herror

theorem advances_forM_entity (g : Generator) (ps : List Placed) :
    Advances g (ps.forM g.entity : Generation (StateM σ) Unit) (g.emittedFrom ps) ps := by
  induction ps with
  | nil => exact advances_pure
  | cons p ps ih => exact (g.advances_entity p).append ih

end EntityScaffold.Generator
