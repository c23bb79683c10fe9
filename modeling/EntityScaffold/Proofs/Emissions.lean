import EntityScaffold.Proofs.EmissionOnTrees

/-!
# Emission of many artifacts

Artifacts are emitted one after the other until one fails. The tree that is left holds, at every
location, the contents of the last artifact of the generator for that location
(`find?_emitAll_of_lastContents?`), and all artifacts are settled (`settled_of_emitAll`). From there
the same emissions succeed again and bring every file of the generator to these contents
(`emitAll_of_settled`), which it has already.
-/

namespace EntityScaffold

/-- What came of emitting artifacts one after the other. -/
structure Emissions where
  /-- What became of the artifacts before the one that failed. -/
  outcomes : List Outcome
  /-- The failure that ended it, if there was one. -/
  failure? : Option Failure
  tree : FileTree

namespace Emissions

/-- Whether the emissions came to an end. -/
def result (e : Emissions) : Except Failure Unit :=
  match e.failure? with
  | some failure => .error failure
  | none => .ok ()

/-- The emissions with one more outcome in front. -/
def cons (outcome : Outcome) (e : Emissions) : Emissions :=
  { e with outcomes := outcome :: e.outcomes }

/-- More emissions, provided that there was no failure before. -/
def andThen (e : Emissions) (next : FileTree → Emissions) : Emissions :=
  match e.failure? with
  | some _ => e
  | none => { next e.tree with outcomes := e.outcomes ++ (next e.tree).outcomes }

theorem cons_andThen (outcome : Outcome) (e : Emissions) (next : FileTree → Emissions) :
    (e.cons outcome).andThen next = (e.andThen next).cons outcome := by
  unfold andThen cons
  cases h : e.failure? <;> simp [h]

/-- One more outcome in front tells of the policy of one more artifact in front. -/
theorem isPreserved_cons {outcome : Outcome} {e : Emissions} {a : Artifact} {as : List Artifact}
    (hfirst : outcome.isPreserved = decide (a.kind.policy = .createOnly))
    (hrest : e.outcomes.map (·.isPreserved) =
      as.map fun a => decide (a.kind.policy = .createOnly)) :
    (e.cons outcome).outcomes.map (·.isPreserved) =
      (a :: as).map fun a => decide (a.kind.policy = .createOnly) := by
  rw [cons, List.map_cons, List.map_cons, hfirst, hrest]

end Emissions

namespace FileTree

variable {t u : FileTree} {workingDirectory : Location} {output : Path} {as : List Artifact}

/-- Emits artifacts one after the other until one fails. -/
def emitAll (t : FileTree) (workingDirectory : Location) (output : Path) :
    List Artifact → Emissions
  | [] => ⟨[], none, t⟩
  | a :: as =>
    match t.emit workingDirectory output a with
    | (.ok outcome, u) => (u.emitAll workingDirectory output as).cons outcome
    | (.error failure, u) => ⟨[], some failure, u⟩

theorem emitAll_append (t : FileTree) (workingDirectory : Location) (output : Path)
    (as bs : List Artifact) :
    t.emitAll workingDirectory output (as ++ bs) =
      (t.emitAll workingDirectory output as).andThen fun u =>
        u.emitAll workingDirectory output bs := by
  induction as generalizing t with
  | nil => rfl
  | cons a as ih =>
    rw [List.cons_append, emitAll, emitAll]
    rcases t.emit workingDirectory output a with ⟨failure | outcome, u⟩
    · rfl
    · simp only
      rw [ih, Emissions.cons_andThen]

/-- Every artifact has an outcome unless there is a failure. -/
theorem length_outcomes_emitAll (t : FileTree) (workingDirectory : Location) (output : Path)
    (as : List Artifact) :
    let e := t.emitAll workingDirectory output as
    (e.failure? = none → e.outcomes.length = as.length) ∧
      (∀ failure, e.failure? = some failure → e.outcomes.length < as.length) := by
  induction as generalizing t with
  | nil => exact ⟨fun _ => rfl, nofun⟩
  | cons a as ih =>
    rw [emitAll]
    rcases t.emit workingDirectory output a with ⟨failure | outcome, u⟩
    · exact ⟨nofun, fun _ _ => Nat.succ_pos _⟩
    · obtain ⟨hall, hsome⟩ := ih u
      exact ⟨fun h => congrArg Nat.succ (hall h),
        fun failure h => Nat.succ_lt_succ (hsome failure h)⟩

/-- Emissions end with a failure at the file of an artifact or at the directory for it. -/
theorem emitAll_failure {failure : Failure}
    (h : (t.emitAll workingDirectory output as).failure? = some failure) :
    ∃ a ∈ as, ∃ path cause, failure = .file path cause ∧
      (path = a.pathBelow output ∨ (a.pathBelow output).parent? = some path) := by
  induction as generalizing t with
  | nil => cases h
  | cons a as ih =>
    rw [emitAll] at h
    rcases hemit : t.emit workingDirectory output a with ⟨failure | outcome, u⟩
    · rw [hemit] at h
      cases h
      exact ⟨a, List.mem_cons_self, emit_failure hemit⟩
    · rw [hemit] at h
      obtain ⟨b, hb, hfailure⟩ := ih h
      exact ⟨b, List.mem_cons_of_mem a hb, hfailure⟩

/-- Only files of the generator among the artifacts get other contents. -/
theorem retains_emitAll (t : FileTree) (workingDirectory : Location) (output : Path)
    (as : List Artifact) :
    Retains (fun place => ∃ a ∈ as, a.Owns workingDirectory output place) t
      (t.emitAll workingDirectory output as).tree := by
  induction as generalizing t with
  | nil => exact .refl _ t
  | cons a as ih =>
    have hfirst : Retains (fun place => ∃ b ∈ a :: as, b.Owns workingDirectory output place) t
        (t.emit workingDirectory output a).2 :=
      (t.retains_emit workingDirectory output a).mono fun place howns =>
        ⟨a, List.mem_cons_self, howns⟩
    rw [emitAll]
    rcases hemit : t.emit workingDirectory output a with ⟨failure | outcome, u⟩
    · rw [hemit] at hfirst
      exact hfirst
    · rw [hemit] at hfirst
      refine hfirst.trans ((ih u).mono fun place howned => ?_)
      obtain ⟨b, hb, howns⟩ := howned
      exact ⟨b, List.mem_cons_of_mem a hb, howns⟩

/-- Without a failure every artifact is settled in the end. -/
theorem settled_of_emitAll (h : (t.emitAll workingDirectory output as).failure? = none)
    {a : Artifact} (ha : a ∈ as) :
    Settled workingDirectory output (t.emitAll workingDirectory output as).tree a := by
  induction as generalizing t with
  | nil => exact absurd ha List.not_mem_nil
  | cons b as ih =>
    rw [emitAll] at h ⊢
    rcases hemit : t.emit workingDirectory output b with ⟨failure | outcome, u⟩
    · rw [hemit] at h
      cases h
    · rw [hemit] at h
      rcases List.mem_cons.mp ha with rfl | ha
      · exact (settled_of_emit hemit).mono (u.retains_emitAll workingDirectory output as)
      · exact ih h ha

/-! ## The places of the generator -/

/-- The locations of the artifacts that belong to the generator, in order. -/
def ownedLocations (workingDirectory : Location) (output : Path) (as : List Artifact) :
    List Location :=
  (as.filter (·.kind.policy = .overwrite)).map (·.location workingDirectory output)

theorem mem_ownedLocations {place : Location} :
    place ∈ ownedLocations workingDirectory output as ↔
      ∃ a ∈ as, a.Owns workingDirectory output place := by
  simp [ownedLocations, Artifact.Owns, and_assoc]

theorem ownedLocations_cons (workingDirectory : Location) (output : Path) (a : Artifact)
    (as : List Artifact) :
    ownedLocations workingDirectory output (a :: as) =
      if a.kind.policy = .overwrite then
        a.location workingDirectory output :: ownedLocations workingDirectory output as
      else ownedLocations workingDirectory output as := by
  unfold ownedLocations
  by_cases h : a.kind.policy = .overwrite
  · rw [List.filter_cons_of_pos (by simpa using h), if_pos h, List.map_cons]
  · rw [List.filter_cons_of_neg (by simpa using h), if_neg h]

/-! ## The last contents -/

/-- The contents of the last artifact that belongs to the generator and goes to the given place. -/
def lastContents? (workingDirectory : Location) (output : Path) (place : Location) :
    List Artifact → Option ByteArray
  | [] => none
  | a :: as =>
    match lastContents? workingDirectory output place as with
    | some contents => some contents
    | none => if a.Owns workingDirectory output place then some a.bytes else none

/-- A place without last contents is owned by no artifact. -/
theorem lastContents?_eq_none_iff {place : Location} :
    lastContents? workingDirectory output place as = none ↔
      ∀ a ∈ as, ¬ a.Owns workingDirectory output place := by
  induction as with
  | nil => exact ⟨fun _ a ha => absurd ha List.not_mem_nil, fun _ => rfl⟩
  | cons a as ih =>
    rw [lastContents?, List.forall_mem_cons, ← ih]
    cases lastContents? workingDirectory output place as with
    | some contents => simp
    | none => by_cases howns : a.Owns workingDirectory output place <;> simp [howns]

/-- Where no two artifacts own one place, the last contents are the only ones. -/
theorem lastContents?_of_nodup (h : (ownedLocations workingDirectory output as).Nodup)
    {a : Artifact} (ha : a ∈ as) {place : Location} (howns : a.Owns workingDirectory output place) :
    lastContents? workingDirectory output place as = some a.bytes := by
  induction as with
  | nil => exact absurd ha List.not_mem_nil
  | cons b as ih =>
    rw [ownedLocations_cons] at h
    rw [lastContents?]
    rcases List.mem_cons.mp ha with rfl | ha
    · rw [if_pos howns.1, howns.2] at h
      have hnone : lastContents? workingDirectory output place as = none := by
        rw [lastContents?_eq_none_iff]
        intro c hc hcowns
        exact (List.nodup_cons.mp h).1 (mem_ownedLocations.mpr ⟨c, hc, hcowns⟩)
      rw [hnone]
      simp only
      rw [if_pos howns]
    · have has : (ownedLocations workingDirectory output as).Nodup := by
        split at h
        · exact (List.nodup_cons.mp h).2
        · exact h
      rw [ih has ha]

/-- In the end a file of the generator has the contents of the last artifact for its place. -/
theorem find?_emitAll_of_lastContents?
    (h : (t.emitAll workingDirectory output as).failure? = none) {place : Location}
    {contents : ByteArray}
    (hlast : lastContents? workingDirectory output place as = some contents) :
    (t.emitAll workingDirectory output as).tree.find? place = some (.file contents) := by
  induction as generalizing t with
  | nil => cases hlast
  | cons a as ih =>
    rw [emitAll] at h ⊢
    rcases hemit : t.emit workingDirectory output a with ⟨failure | outcome, u⟩
    · rw [hemit] at h
      cases h
    rw [hemit] at h
    rw [lastContents?] at hlast
    cases hrest : lastContents? workingDirectory output place as with
    | some last =>
      rw [hrest] at hlast
      cases hlast
      exact ih h hrest
    | none =>
      rw [hrest] at hlast
      simp only at hlast
      split at hlast
      · next howns =>
        cases hlast
        -- no artifact after this one changes the file
        have hfile := find?_emit_of_owns hemit howns
        obtain ⟨later, hlater, hsame | ⟨b, hb, howned⟩⟩ :=
          (u.retains_emitAll workingDirectory output as).file place _ hfile
        · rw [← hsame]
          exact hlater
        · exact absurd howned (lastContents?_eq_none_iff.mp hrest b hb)
      · cases hlast

/-! ## Emitting again -/

/-- Settled artifacts are emitted without a failure. Files of the developer are preserved, and files
of the generator end up with the last contents for their places. -/
theorem emitAll_of_settled (h : ∀ a ∈ as, Settled workingDirectory output t a) :
    let e := t.emitAll workingDirectory output as
    e.failure? = none ∧
      e.outcomes.map (·.isPreserved) = as.map (fun a => decide (a.kind.policy = .createOnly)) ∧
      ∀ place, e.tree.find? place =
        match lastContents? workingDirectory output place as with
        | some contents => some (.file contents)
        | none => t.find? place := by
  induction as generalizing t with
  | nil => exact ⟨rfl, rfl, fun _ => rfl⟩
  | cons a as ih =>
    have ha : Settled workingDirectory output t a := h a List.mem_cons_self
    have hretains := t.retains_emit workingDirectory output a
    rw [emitAll]
    cases hpolicy : a.kind.policy with
    | createOnly =>
      rw [ha.emit_createOnly hpolicy]
      obtain ⟨hfailure, houtcomes, htree⟩ := ih fun b hb => h b (List.mem_cons_of_mem a hb)
      have hfirst : Outcome.preserved.isPreserved = decide (a.kind.policy = .createOnly) := by
        rw [hpolicy]
        rfl
      refine ⟨hfailure, Emissions.isPreserved_cons hfirst houtcomes, fun place => ?_⟩
      have hnot : ¬ a.Owns workingDirectory output place := by
        rintro ⟨howns, -⟩
        rw [hpolicy] at howns
        cases howns
      refine (htree place).trans ?_
      rw [lastContents?, if_neg hnot]
      cases lastContents? workingDirectory output place as <;> rfl
    | overwrite =>
      obtain ⟨outcome, u, hemit, hne, hu⟩ := ha.emit_overwrite hpolicy
      rw [hemit] at hretains ⊢
      -- this one may change the files of later artifacts, but these stay settled
      obtain ⟨hfailure, houtcomes, htree⟩ :=
        ih fun b hb => (h b (List.mem_cons_of_mem a hb)).mono hretains
      have hfirst : outcome.isPreserved = decide (a.kind.policy = .createOnly) := by
        rw [hne, hpolicy]
        rfl
      refine ⟨hfailure, Emissions.isPreserved_cons hfirst houtcomes, fun place => ?_⟩
      refine (htree place).trans ?_
      rw [lastContents?]
      cases lastContents? workingDirectory output place as with
      | some contents => rfl
      | none =>
        simp only
        rw [hu]
        by_cases hplace : place = a.location workingDirectory output
        · rw [if_pos hplace, if_pos ⟨hpolicy, hplace.symm⟩]
        · rw [if_neg hplace, if_neg fun howns => hplace howns.2.symm]

/-- Settled artifacts that have the right contents are emitted without any change. -/
theorem emitAll_of_settled_of_contents (h : ∀ a ∈ as, Settled workingDirectory output t a)
    (hcontents : ∀ a ∈ as, a.kind.policy = .overwrite →
      t.find? (a.location workingDirectory output) = some (.file a.bytes)) :
    (∀ outcome ∈ (t.emitAll workingDirectory output as).outcomes, outcome ≠ .written) ∧
      (t.emitAll workingDirectory output as).tree = t := by
  induction as with
  | nil => exact ⟨fun _ h => absurd h List.not_mem_nil, rfl⟩
  | cons a as ih =>
    have ha : Settled workingDirectory output t a := h a List.mem_cons_self
    obtain ⟨houtcomes, htree⟩ := ih (fun b hb => h b (List.mem_cons_of_mem a hb))
      fun b hb => hcontents b (List.mem_cons_of_mem a hb)
    rw [emitAll]
    cases hpolicy : a.kind.policy with
    | createOnly =>
      rw [ha.emit_createOnly hpolicy]
      exact ⟨List.forall_mem_cons.mpr ⟨nofun, houtcomes⟩, htree⟩
    | overwrite =>
      rw [ha.emit_unchanged hpolicy (hcontents a List.mem_cons_self hpolicy)]
      exact ⟨List.forall_mem_cons.mpr ⟨nofun, houtcomes⟩, htree⟩

/-- Emissions that came to an end come to an end again, and leave the same tree. -/
theorem emitAll_again (hend : (t.emitAll workingDirectory output as).failure? = none) :
    let e := t.emitAll workingDirectory output as
    let again := e.tree.emitAll workingDirectory output as
    again.failure? = none ∧ again.tree.Same e.tree ∧
      again.outcomes.map (·.isPreserved) =
        as.map fun a => decide (a.kind.policy = .createOnly) := by
  have hsettled : ∀ a ∈ as, Settled workingDirectory output
      (t.emitAll workingDirectory output as).tree a := fun a ha => settled_of_emitAll hend ha
  obtain ⟨hfailure, houtcomes, htree⟩ := emitAll_of_settled hsettled
  refine ⟨hfailure, fun place => ?_, houtcomes⟩
  rw [htree]
  cases hlast : lastContents? workingDirectory output place as with
  | none => rfl
  | some contents => exact (find?_emitAll_of_lastContents? hend hlast).symm

/-- Where no two artifacts own one place, nothing is written when they are emitted again. -/
theorem none_written_emitAll_again
    (hend : (t.emitAll workingDirectory output as).failure? = none)
    (h : (ownedLocations workingDirectory output as).Nodup) :
    ∀ outcome ∈ ((t.emitAll workingDirectory output as).tree.emitAll workingDirectory
      output as).outcomes, outcome ≠ .written := by
  refine (emitAll_of_settled_of_contents (fun a ha => settled_of_emitAll hend ha) ?_).1
  intro a ha hpolicy
  have howns : a.Owns workingDirectory output (a.location workingDirectory output) :=
    ⟨hpolicy, rfl⟩
  exact find?_emitAll_of_lastContents? hend (lastContents?_of_nodup h ha howns)

end FileTree

end EntityScaffold
