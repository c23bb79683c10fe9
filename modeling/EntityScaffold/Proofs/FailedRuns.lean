import EntityScaffold.Proofs.GenerationPlan
import EntityScaffold.Proofs.SchemaContents

/-!
# Runs that fail

No file is touched before the whole schema was read and its hierarchy is complete. A run that fails
up to there leaves the tree as it was, apart from directories on the way to the output
(`files_stay_unless_schema_is_accepted`). From there on only files and directories can be the
reason of a failure (`generate_failure`), so any other failure tells that no file was touched.
-/

namespace EntityScaffold.Conversion

open FileTree
open Mapping (Resource)

/-- A generation can only fail because of a file or a directory. -/
theorem generate_failure {g : Generator} {rs : List Resource} {w v : World} {failure : Failure}
    (h : (generate g rs : Attempt Simulation Tally).runIn w = (.error failure, v)) :
    ∃ path cause, failure = .file path cause := by
  obtain ⟨log, hrun⟩ := runIn_generate g rs w
  rw [hrun] at h
  unfold Emissions.result at h
  cases hend : (w.tree.emitAll w.workingDirectory g.output (g.plan rs)).failure? with
  | none =>
    rw [hend] at h
    cases h
  | some reason =>
    rw [hend] at h
    have hreason : reason = failure := Except.error.inj (congrArg Prod.fst h)
    obtain ⟨a, -, path, cause, hfile, -⟩ := emitAll_failure hend
    exact ⟨path, cause, hreason ▸ hfile⟩

variable {parse : Xml.Parser} {s : Settings} {w : World}

/-- A run that fails in the preparation ends there. -/
theorem run_of_prepare_eq_error {failure : Failure} {v : World}
    (h : (prepare parse s : Attempt Simulation _).runIn w = (.error failure, v)) :
    (run parse s : Attempt Simulation Tally).runIn w = (.error failure, v) := by
  rw [runIn_run, h]

theorem addsDirectoriesAt_of_prepare_eq_error {failure : Failure} {v : World}
    (h : (prepare parse s : Attempt Simulation _).runIn w = (.error failure, v)) :
    AddsDirectoriesAt (OnTheWay s w) w.tree v.tree :=
  ((keepsFrom_prepare s w).related rfl h).2

/-- Where a run fails for another reason than a file or a directory, the preparation fails. -/
theorem prepare_eq_error_of_run {failure : Failure} {v : World}
    (h : (run parse s : Attempt Simulation Tally).runIn w = (.error failure, v))
    (hreason : ∀ path cause, failure ≠ .file path cause) :
    (prepare parse s : Attempt Simulation _).runIn w = (.error failure, v) := by
  rw [runIn_run] at h
  rcases hprepare : (prepare parse s : Attempt Simulation _).runIn w with ⟨reason | ⟨g, rs⟩, u⟩
  · rw [hprepare] at h
    cases h
    rfl
  · rw [hprepare] at h
    simp only at h
    rcases hgenerate : (generate g rs : Attempt Simulation Tally).runIn u with ⟨reason | tally, u'⟩
    · rw [hgenerate] at h
      have hsame : reason = failure := Except.error.inj (congrArg Prod.fst h)
      obtain ⟨path, cause, hfile⟩ := generate_failure hgenerate
      exact absurd (hsame ▸ hfile) (hreason path cause)
    · rw [hgenerate] at h
      cases h

/-- A run touches no file unless it has read the whole schema and has its hierarchy. If it fails
before, its failure is the one of the preparation, and all that is new are directories on the way to
the output. Every failure that is not about a file or a directory is one of these. -/
theorem files_stay_unless_schema_is_accepted (parse : Xml.Parser) (s : Settings) (w : World) :
    let outcome := ((run parse s : Attempt Simulation Tally).runIn w).1
    let after := ((run parse s : Attempt Simulation Tally).runIn w).2
    (¬ AddsDirectoriesAt (OnTheWay s w) w.tree after.tree →
      ∃ g rs prepared, (prepare parse s : Attempt Simulation _).runIn w = (.ok (g, rs), prepared) ∧
        (∃ c, HoldsSchema parse s w.workingDirectory w.tree c rs) ∧
        Hierarchy.ofResources rs = .ok g.hierarchy) ∧
    (∀ failure v, (prepare parse s : Attempt Simulation _).runIn w = (.error failure, v) →
      outcome = .error failure ∧ AddsDirectoriesAt (OnTheWay s w) w.tree after.tree) ∧
    (∀ failure, outcome = .error failure → (∀ path cause, failure ≠ .file path cause) →
      AddsDirectoriesAt (OnTheWay s w) w.tree after.tree) ∧
    (∀ g rs v failure u, (generate g rs : Attempt Simulation Tally).runIn v = (.error failure, u) →
      ∃ path cause, failure = .file path cause) := by
  intro outcome after
  have hfailed (failure : Failure) (v : World)
      (h : (prepare parse s : Attempt Simulation _).runIn w = (.error failure, v)) :
      outcome = .error failure ∧ AddsDirectoriesAt (OnTheWay s w) w.tree after.tree := by
    have hrun := run_of_prepare_eq_error h
    refine ⟨congrArg Prod.fst hrun, ?_⟩
    have htree : after = v := congrArg Prod.snd hrun
    rw [htree]
    exact addsDirectoriesAt_of_prepare_eq_error h
  refine ⟨fun htouched => ?_, hfailed, fun failure houtcome hreason => ?_,
    fun g rs v failure u hgenerate => generate_failure hgenerate⟩
  · rcases hprepare : (prepare parse s : Attempt Simulation _).runIn w with ⟨failure | ⟨g, rs⟩, v⟩
    · exact absurd (hfailed failure v hprepare).2 htouched
    · obtain ⟨hschema, hhierarchy, -, -⟩ := prepare_eq_ok hprepare
      exact ⟨g, rs, v, rfl, hschema, hhierarchy⟩
  · have hrun : (run parse s : Attempt Simulation Tally).runIn w = (.error failure, after) :=
      Prod.ext houtcome rfl
    exact (hfailed failure after (prepare_eq_error_of_run hrun hreason)).2

end EntityScaffold.Conversion
