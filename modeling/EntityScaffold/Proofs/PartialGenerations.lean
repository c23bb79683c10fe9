import EntityScaffold.Proofs.Acceptance
import EntityScaffold.Proofs.DocumentOrder
import EntityScaffold.Proofs.RepeatedCalls

/-!
# Generations that fail

A call plans four artifacts for every entity of its document, in the order of the document. If it
fails, it has emitted the first ones of them, and the artifact at which it failed changed no file
(`Leaves`). The tally counts what was emitted (`partial_generations`). An entity is counted after
its fourth artifact, so a call that fails leaves at most three artifacts of an entity that is not
counted.
-/

namespace EntityScaffold

open Mapping (Entity Placed Resource preorderAll)
open Text (NameSet)
open Generation (runIn)

/-! ## What a call leaves -/

section Worlds

variable {workingDirectory : Location} {output : Path} {t u v : FileTree} {a : Artifact}
  {as : List Artifact}

/-- Artifacts are emitted one after the other, from the first tree to the second. -/
inductive EmitsAll (workingDirectory : Location) (output : Path) :
    FileTree → List Artifact → FileTree → Prop
  | nil {t : FileTree} : EmitsAll workingDirectory output t [] t
  | cons {t u : FileTree} {w : World} {a : Artifact} {as : List Artifact} {outcome : Outcome}
      {log : List Log.Line}
      (first : (a.emit output).runIn ⟨t, workingDirectory, log⟩ = (.ok outcome, w))
      (rest : EmitsAll workingDirectory output w.tree as u) :
      EmitsAll workingDirectory output t (a :: as) u

/-- What becomes of planned artifacts and of a tree: which ones were emitted, how it ended, and the
tree that is left. Where it ended with a failure, this came from the artifact behind the emitted
ones, which changed no file. -/
inductive Leaves (workingDirectory : Location) (output : Path) (t : FileTree)
    (planned : List Artifact) : List Artifact → Except Failure Unit → FileTree → Prop
  | complete {u : FileTree} (all : EmitsAll workingDirectory output t planned u) :
      Leaves workingDirectory output t planned planned (.ok ()) u
  | partly {u : FileTree} {w : World} {before after : List Artifact} {a : Artifact}
      {log : List Log.Line} {failure : Failure} (split : planned = before ++ a :: after)
      (first : EmitsAll workingDirectory output t before u)
      (failed : (a.emit output).runIn ⟨u, workingDirectory, log⟩ = (.error failure, w))
      (same_files : FileTree.AddsDirectories u w.tree) :
      Leaves workingDirectory output t planned before (.error failure) w.tree

theorem Leaves.cons {outcome : Outcome} {emitted : List Artifact} {result : Except Failure Unit}
    (first : t.emit workingDirectory output a = (.ok outcome, u))
    (rest : Leaves workingDirectory output u as emitted result v) :
    Leaves workingDirectory output t (a :: as) (a :: emitted) result v := by
  obtain ⟨log, hemit⟩ := a.runIn_emit output ⟨t, workingDirectory, []⟩
  simp only [first] at hemit
  cases rest with
  | complete all => exact .complete (.cons hemit all)
  | partly split before failed same_files =>
    exact .partly (congrArg (a :: ·) split) (.cons hemit before) failed same_files

theorem leaves_emitAll (t : FileTree) (workingDirectory : Location) (output : Path)
    (as : List Artifact) :
    let e := t.emitAll workingDirectory output as
    Leaves workingDirectory output t as (as.take e.outcomes.length) e.result e.tree := by
  induction as generalizing t with
  | nil => exact .complete .nil
  | cons a as ih =>
    simp only [FileTree.emitAll]
    rcases hemit : t.emit workingDirectory output a with ⟨failure | outcome, u⟩
    · obtain ⟨log, hrun⟩ := a.runIn_emit output ⟨t, workingDirectory, []⟩
      simp only [hemit] at hrun
      exact .partly rfl .nil hrun (FileTree.emit_eq_error hemit).addsDirectories
    · exact (ih u).cons hemit

end Worlds

/-! ## What a call plans -/

/-- The kind, the package and the class name of each artifact of an entity, in order. -/
def Mapping.Entity.outline (e : Entity) : List (ArtifactKind × String × String) :=
  ArtifactKind.all.map fun kind =>
    (kind, kind.package (e.type.package?.getD ""), kind.className e.className)

theorem Generator.map_planFrom (g : Generator) (table : List (String × NameSet))
    (ps : List Placed) :
    (g.planFrom table ps).map (fun a => (a.kind, a.package, a.className)) =
      (ps.map (·.entity)).flatMap Mapping.Entity.outline := by
  induction ps generalizing table with
  | nil => rfl
  | cons p ps ih =>
    rw [planFrom, List.map_append, ih, List.map_cons, List.flatMap_cons]
    rfl

/-! ## The tally -/

section Tallies

variable {σ : Type} [Host (StateM σ)]

/-- A call adds what it emits to the files, and to the entities the fourth part of it. A part of an
entity remains only if the call fails. -/
theorem Generator.tally_afterCall (g : Generator) (progress : Progress) (c : Call σ) :
    let after := (g.afterCall progress c).tally
    let n := (g.emitted progress c).length
    after.files = progress.tally.files + n ∧
      after.entities = progress.tally.entities + n / 4 ∧
      ((runIn (g.resource c.resource) progress c.state).1.1 = .ok () → n % 4 = 0) := by
  obtain ⟨outcomes, hafter, -, -, hall⟩ := g.exists_outcomes progress c
  have hlength := Generator.length_emitted hafter
  refine ⟨g.files_afterCall progress c, ?_, fun hok => ?_⟩
  · rw [hlength, hafter]
    rfl
  · rw [hlength, hall hok]
    exact Nat.mul_mod_right 4 _

/-- Over some calls the files grow by what was emitted, and the entities by at least as many as four
files each make up, apart from at most three files for every call that failed. -/
theorem Generator.tally_afterCalls (g : Generator) (progress : Progress) (calls : List (Call σ)) :
    let after := (g.afterCalls progress calls).tally
    after.files = progress.tally.files + (g.emittedIn progress calls).flatten.length ∧
      4 * after.entities + progress.tally.files ≤ after.files + 4 * progress.tally.entities ∧
      after.files + 4 * progress.tally.entities ≤
        4 * after.entities + progress.tally.files + 3 * g.failedCalls progress calls := by
  induction calls generalizing progress with
  | nil =>
    have hafter : g.afterCalls progress ([] : List (Call σ)) = progress := rfl
    simp only [hafter, emittedIn, failedCalls, List.flatten_nil, List.length_nil]
    omega
  | cons c calls ih =>
    have hafter : g.afterCalls progress (c :: calls) =
        g.afterCalls (g.afterCall progress c) calls := rfl
    obtain ⟨hfiles, hlower, hupper⟩ := ih (g.afterCall progress c)
    obtain ⟨hfirst, hentities, hwhole⟩ := g.tally_afterCall progress c
    simp only [hafter, emittedIn, List.flatten_cons, List.length_append]
    rw [failedCalls]
    split
    · next hok =>
      have := hwhole hok
      omega
    · omega

end Tallies

/-- What a call leaves is told by its plan, which is in the order of the document: if it fails, the
tree has the files of the first artifacts. After any calls the tally tells how many artifacts were
emitted, and four of them make up an entity, but for at most three left over from each failed call.
When each of the documents was generated once, and no call failed, all entities are counted. -/
theorem partial_generations (g : Generator) :
    (∀ (progress : Progress) (c : Call World),
      let planned := g.planFrom progress.shown c.resource.placed
      let run := runIn (g.resource c.resource) progress c.state
      planned.map (fun a => (a.kind, a.package, a.className)) =
          (preorderAll c.resource.entities).flatMap Entity.outline ∧
        Leaves c.state.workingDirectory g.output c.state.tree planned (g.emitted progress c)
          run.1.1 run.2.tree) ∧
    (∀ (σ : Type) [Host (StateM σ)] (calls : List (Call σ)),
      let tally := (g.afterCalls {} calls).tally
      tally.files = (g.emittedIn {} calls).flatten.length ∧
        4 * tally.entities ≤ tally.files ∧
        tally.files ≤ 4 * tally.entities + 3 * g.failedCalls {} calls) ∧
    ∀ (rs : List Resource) (h : Hierarchy), Hierarchy.ofResources rs = .ok h →
      ∀ (σ : Type) [Host (StateM σ)] (calls : List (Call σ)),
        (calls.map (·.resource)).Perm rs → g.failedCalls {} calls = 0 →
          let tally := (g.afterCalls {} calls).tally
          tally.entities = h.size ∧ tally.files = 4 * tally.entities := by
  have htally (σ : Type) [Host (StateM σ)] (calls : List (Call σ)) :
      let tally := (g.afterCalls {} calls).tally
      tally.files = (g.emittedIn {} calls).flatten.length ∧
        4 * tally.entities ≤ tally.files ∧
        tally.files ≤ 4 * tally.entities + 3 * g.failedCalls {} calls := by
    have hzero : ({} : Progress).tally.files = 0 ∧ ({} : Progress).tally.entities = 0 := ⟨rfl, rfl⟩
    have hcalls := g.tally_afterCalls {} calls
    simp only [hzero] at hcalls
    omega
  refine ⟨fun progress c => ⟨?_, ?_⟩, htally, fun rs h hrs σ _ calls hperm hnone => ?_⟩
  · rw [g.map_planFrom, Resource.placed, Mapping.map_entity_placedAll]
  · obtain ⟨hemitted, hresult, htree⟩ := g.emitted_on_world progress c
    rw [hemitted, hresult, htree]
    exact leaves_emitAll c.state.tree c.state.workingDirectory g.output _
  · obtain ⟨hfiles, hlower, hupper⟩ := htally σ calls
    have hplaced := (hperm.flatMap_right (·.placed)).length_eq
    have hsize := (Hierarchy.describes_of_ofResources hrs).size_eq
    rw [(Generator.calls_of_failedCalls_eq_zero hnone).1, Generator.length_planFrom, hplaced,
      ← hsize] at hfiles
    rw [hnone] at hupper
    simp only
    omega

/-! ### A call that fails at the last artifact -/

/-- A world in which a file stands in the place of the directory for access objects. -/
def crowdedWorld : World :=
  ⟨⟨[(["work"], .directory), (["work", "dao"], .file ByteArray.empty)]⟩, ["work"], []⟩

/-- The document of the guest in the crowded world, and then both documents without hindrance. -/
def guestCalls : List (Call World) :=
  ⟨guestDocument, crowdedWorld⟩ :: freshCalls [guestDocument, hutDocument]

theorem partial_generations_guest :
    (∃ failure u, Leaves ["work"] ⟨""⟩ crowdedWorld.tree (guestGenerator.plan [guestDocument])
      ((guestGenerator.plan [guestDocument]).take 3) (.error failure) u) ∧
    guestGenerator.failedCalls {} guestCalls = 1 ∧
    (guestGenerator.emittedIn {} guestCalls).flatten.length = 11 ∧
    (guestGenerator.afterCalls {} guestCalls).tally.files = 4 * 2 + 3 ∧
    (guestGenerator.afterCalls {} guestCalls).tally.entities = 2 ∧
    (guestGenerator.afterCalls {} (freshCalls [guestDocument, hutDocument])).tally.entities = 2 ∧
    (guestGenerator.afterCalls {} (freshCalls [guestDocument, hutDocument])).tally.files = 8 := by
  obtain ⟨hcall, htally, hall⟩ := partial_generations guestGenerator
  have hfailed : guestGenerator.failedCalls {} guestCalls = 1 := by decide +kernel
  have hfiles : (guestGenerator.afterCalls {} guestCalls).tally.files = 11 := by decide +kernel
  have hnone : guestGenerator.failedCalls {} (freshCalls [guestDocument, hutDocument]) = 0 := by
    decide +kernel
  obtain ⟨hemitted, hlower, hupper⟩ := htally World guestCalls
  rw [hfailed] at hupper
  have hguest : Hierarchy.ofResources [guestDocument, hutDocument] =
      .ok guestGenerator.hierarchy := rfl
  obtain ⟨hentities, hcounted⟩ := hall _ _ hguest World
    (freshCalls [guestDocument, hutDocument]) (by rw [map_resource_freshCalls]) hnone
  have hsize : guestGenerator.hierarchy.size = 2 := rfl
  rw [hsize] at hentities
  rw [hentities] at hcounted
  refine ⟨?_, hfailed, hemitted.symm.trans hfiles, hfiles, by omega, hentities, hcounted⟩
  obtain ⟨-, hleaves⟩ := hcall {} ⟨guestDocument, crowdedWorld⟩
  have hthree : (guestGenerator.afterCall {}
      (⟨guestDocument, crowdedWorld⟩ : Call World)).tally.files = 3 := by decide +kernel
  have hfails : (runIn (guestGenerator.resource guestDocument) {} crowdedWorld).1.1.isOk =
      false := by decide +kernel
  have htake : guestGenerator.emitted {} (⟨guestDocument, crowdedWorld⟩ : Call World) =
      (guestGenerator.plan [guestDocument]).take 3 := by
    have hlength := guestGenerator.files_afterCall {} (⟨guestDocument, crowdedWorld⟩ : Call World)
    have hnone : ({} : Progress).tally.files = 0 := rfl
    rw [hthree, hnone, Nat.zero_add] at hlength
    rw [Generator.emitted_eq_take, ← hlength, Generator.plan, List.flatMap_singleton]
  cases hresult : (runIn (guestGenerator.resource guestDocument) {} crowdedWorld).1.1 with
  | ok =>
    rw [hresult] at hfails
    cases hfails
  | error failure =>
    rw [htake, hresult] at hleaves
    exact ⟨failure, _, hleaves⟩

end EntityScaffold
