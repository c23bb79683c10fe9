import EntityScaffold.Proofs.Acceptance
import EntityScaffold.Proofs.CompletedTrees
import EntityScaffold.Proofs.RepeatedCalls

/-!
# The order of the documents

Documents can be listed in any order (`document_order_does_not_matter`). The hierarchy has its facts
in another order then, but it gives the same answers (`Hierarchy.Agrees`), because every answer is
about one entity and its nesting path. So the artifacts of an entity are the same as well: only the
finders look into the hierarchy (`Scaffold.artifacts_onPath_congr`), and the names shown are those
on the path, whatever was generated before. The plans for two orders are therefore permutations of
each other, and they complete a tree to the same one.
-/

namespace EntityScaffold

open Mapping (Mapped Placed Resource)

variable {rs rs' : List Resource} {h h' : Hierarchy}

/-! ## Hierarchies -/

theorem Mapping.Mapped.perm {p : Placed} (hp : Mapped rs p) (hperm : rs.Perm rs') :
    Mapped rs' p := by
  obtain ⟨r, hr, hnested⟩ := hp
  exact ⟨r, hperm.mem_iff.mp hr, hnested⟩

namespace Hierarchy

theorem exists_ok_of_perm (hperm : rs.Perm rs') :
    (∃ h, ofResources rs = .ok h) ↔ ∃ h, ofResources rs' = .ok h := by
  rw [nodup_iff_exists_ok, nodup_iff_exists_ok]
  exact ((hperm.flatMap_right _).map _).nodup_iff

/-- The hierarchies give the same answer to every question. -/
structure Agrees (h h' : Hierarchy) : Prop where
  size_eq : h.size = h'.size
  parent?_eq : ∀ name, h.parent? name = h'.parent? name
  key?_eq : ∀ name, h.key? name = h'.key? name
  finderKey_eq : ∀ name, h.finderKey name = h'.finderKey name

theorem agrees_of_perm (hperm : rs.Perm rs') (hrs : ofResources rs = .ok h)
    (hrs' : ofResources rs' = .ok h') : h.Agrees h' := by
  have hdescribes := describes_of_ofResources hrs
  have hdescribes' := describes_of_ofResources hrs'
  -- every name is one of an entity that both map, or unknown to both
  have hcases (name : String) : (∃ p, Mapped rs p ∧ Mapped rs' p ∧ p.entity.className = name) ∨
      name ∉ h.names ∧ name ∉ h'.names := by
    by_cases hname : name ∈ h.names
    · obtain ⟨p, hp, hclass⟩ := (mem_names_iff hrs).mp hname
      exact .inl ⟨p, hp, hp.perm hperm, hclass⟩
    · refine .inr ⟨hname, fun hname' => hname ?_⟩
      obtain ⟨p, hp, hclass⟩ := (mem_names_iff hrs').mp hname'
      exact (mem_names_iff hrs).mpr ⟨p, hp.perm hperm.symm, hclass⟩
  have hunknown {rs : List Resource} {h : Hierarchy} (hrs : ofResources rs = .ok h) {name : String}
      (hname : name ∉ h.names) : h.parent? name = none ∧ h.key? name = none := by
    apply (describes_of_ofResources hrs).unknown
    rw [← List.mem_reverse, ← List.map_reverse,
      ← names_of_ofPlaced hrs]
    exact hname
  refine ⟨?_, fun name => ?_, fun name => ?_, fun name => ?_⟩
  · rw [hdescribes.size_eq, hdescribes'.size_eq, (hperm.flatMap_right _).length_eq]
  · rcases hcases name with ⟨p, hp, hp', rfl⟩ | ⟨hname, hname'⟩
    · rw [hdescribes.parent?_eq p hp, hdescribes'.parent?_eq p hp']
    · rw [(hunknown hrs hname).1, (hunknown hrs' hname').1]
  · rcases hcases name with ⟨p, hp, hp', rfl⟩ | ⟨hname, hname'⟩
    · rw [hdescribes.key?_eq p hp, hdescribes'.key?_eq p hp']
    · rw [(hunknown hrs hname).2, (hunknown hrs' hname').2]
  · rcases hcases name with ⟨p, hp, hp', rfl⟩ | ⟨hname, hname'⟩
    · rw [finderKey_of_mapped hrs hp, finderKey_of_mapped hrs' hp']
    · rw [finderKey_of_not_mem hname, finderKey_of_not_mem hname']

end Hierarchy

/-! ## Plans -/

/-- Hierarchies that agree on the keys of finders give every entity the same artifacts. -/
theorem Scaffold.artifacts_onPath_congr (hagree : ∀ name, h.finderKey name = h'.finderKey name)
    (p : Placed) (header? : Option String) :
    (onPath h p).artifacts header? = (onPath h' p).artifacts header? := by
  have hfinder : (onPath h p).finder = (onPath h' p).finder := by
    funext association
    have hkeys := congrArg ((onPath h' p).finderFor association)
      (hagree association.target.simple)
    exact hkeys
  have hclass : (onPath h p).accessBaseClass = (onPath h' p).accessBaseClass := by
    unfold accessBaseClass finders
    rw [hfinder]
    rfl
  have hrequest : (onPath h p).finderRequest = (onPath h' p).finderRequest := by
    funext association
    have hkeys := congrArg (Java.ImportRequest.type ·.type) (hagree association.target.simple)
    exact hkeys
  have hrequests : (onPath h p).accessBaseRequests = (onPath h' p).accessBaseRequests := by
    unfold accessBaseRequests
    rw [hrequest]
    rfl
  have hfile : (onPath h p).accessBaseFile = (onPath h' p).accessBaseFile := by
    unfold accessBaseFile
    rw [hclass, hrequests]
    rfl
  have hfiles (kind : ArtifactKind) :
      (onPath h p).sourceFile kind = (onPath h' p).sourceFile kind := by
    cases kind with
    | base => rfl
    | concrete => rfl
    | accessBase => exact hfile
    | access => rfl
  unfold artifacts artifact
  simp only [hfiles]
  rfl

namespace Generator

variable {g g' : Generator}

theorem plan_eq_flatMap (hrs : Hierarchy.ofResources rs = .ok h) (g : Generator) :
    g.plan rs = (rs.flatMap (·.placed)).flatMap fun p =>
      (Scaffold.onPath g.hierarchy p).artifacts g.header? :=
  ((faithful_nil rs).after hrs (fun _ hp => Mapping.mem_placed_iff.mp hp)
    (Mapping.parentsListed_placed rs) g).2

theorem plan_perm (hperm : rs.Perm rs') (hrs : Hierarchy.ofResources rs = .ok g.hierarchy)
    (hrs' : Hierarchy.ofResources rs' = .ok g'.hierarchy) (hheader : g.header? = g'.header?) :
    (g.plan rs).Perm (g'.plan rs') := by
  have hagree := (Hierarchy.agrees_of_perm hperm hrs hrs').finderKey_eq
  have hartifacts (p : Placed) : (Scaffold.onPath g.hierarchy p).artifacts g.header? =
      (Scaffold.onPath g'.hierarchy p).artifacts g'.header? := by
    rw [Scaffold.artifacts_onPath_congr hagree p, hheader]
  rw [plan_eq_flatMap hrs, plan_eq_flatMap hrs']
  simp only [hartifacts]
  exact (hperm.flatMap_right _).flatMap_right _

end Generator

/-! ## The names shown -/

theorem mem_complete_shownAfter_iff {name : String} :
    name ∈ complete (shownAfter [] (rs.flatMap (·.placed))) ↔
      ∃ p, Mapped rs p ∧ p.entity.className = name := by
  have hnil : complete [] = [] := rfl
  rw [complete_shownAfter, hnil, List.append_nil, List.mem_reverse, List.mem_map]
  simp only [Mapping.mem_placed_iff]

/-- After all documents every class shows the names on its path. -/
theorem lookup_shownAfter_of_mapped (hrs : Hierarchy.ofResources rs = .ok h) {p : Placed}
    (hp : Mapped rs p) :
    (shownAfter [] (rs.flatMap (·.placed))).lookup p.entity.className =
      some (namesOn p.path) := by
  have hfaithful := ((faithful_nil rs).after hrs (fun _ hp => Mapping.mem_placed_iff.mp hp)
    (Mapping.parentsListed_placed rs) ⟨h, ⟨""⟩, none⟩).1
  have hcomplete := mem_complete_shownAfter_iff.mpr ⟨p, hp, rfl⟩
  rw [← isSome_lookup_iff] at hcomplete
  obtain ⟨shown, hlookup⟩ := Option.isSome_iff_exists.mp hcomplete
  obtain ⟨q, hq, hname, hshown⟩ := hfaithful _ _ hlookup
  rw [hlookup, hshown, hq.unique hrs hp hname]

theorem lookup_shownAfter_of_perm (hperm : rs.Perm rs')
    (hrs : Hierarchy.ofResources rs = .ok h) (hrs' : Hierarchy.ofResources rs' = .ok h')
    (name : String) :
    (shownAfter [] (rs.flatMap (·.placed))).lookup name =
      (shownAfter [] (rs'.flatMap (·.placed))).lookup name := by
  by_cases hname : ∃ p, Mapped rs p ∧ p.entity.className = name
  · obtain ⟨p, hp, rfl⟩ := hname
    rw [lookup_shownAfter_of_mapped hrs hp, lookup_shownAfter_of_mapped hrs' (hp.perm hperm)]
  · have hnone {rs : List Resource} (hunmapped : ¬ ∃ p, Mapped rs p ∧ p.entity.className = name) :
        (shownAfter [] (rs.flatMap (·.placed))).lookup name = none := by
      rw [← mem_complete_shownAfter_iff, ← isSome_lookup_iff] at hunmapped
      exact Option.not_isSome_iff_eq_none.mp hunmapped
    have hname' : ¬ ∃ p, Mapped rs' p ∧ p.entity.className = name := by
      rintro ⟨p, hp, hclass⟩
      exact hname ⟨p, hp.perm hperm.symm, hclass⟩
    rw [hnone hname, hnone hname']

/-! ## Two orders -/

/-- Generators that do the same for two lists of documents. -/
structure Generator.GeneratesAlike (g g' : Generator) (rs rs' : List Resource) : Prop where
  /-- Calls that do not fail, one for each document, emit the same artifacts to any hosts. -/
  artifacts : ∀ (σ σ' : Type) [Host (StateM σ)] [Host (StateM σ')] (calls : List (Call σ))
    (calls' : List (Call σ')), calls.map (·.resource) = rs → calls'.map (·.resource) = rs' →
    g.failedCalls {} calls = 0 → g'.failedCalls {} calls' = 0 →
      (g.emittedIn {} calls).flatten.Perm (g'.emittedIn {} calls').flatten
  /-- They show the same names for every class. -/
  shown : ∀ (σ σ' : Type) [Host (StateM σ)] [Host (StateM σ')] (calls : List (Call σ))
    (calls' : List (Call σ')), calls.map (·.resource) = rs → calls'.map (·.resource) = rs' →
    g.failedCalls {} calls = 0 → g'.failedCalls {} calls' = 0 →
      ∀ name, (g.afterCalls {} calls).shown? name = (g'.afterCalls {} calls').shown? name
  /-- Generations that come to an end, from one tree and one working directory, leave the same tree,
  provided that each artifact has a file of its own. A working directory that paths start from
  stands in the tree. -/
  tree : ∀ (w w' v v' : World) (tally tally' : Tally), w'.tree = w.tree →
    w'.workingDirectory = w.workingDirectory →
    (g.output.isAbsolute = false → w.tree.Stands w.workingDirectory) →
    ((g.plan rs).map (·.location w.workingDirectory g.output)).Nodup →
    (Conversion.generate g rs : Attempt Simulation Tally).runIn w = (.ok tally, v) →
    (Conversion.generate g' rs' : Attempt Simulation Tally).runIn w' = (.ok tally', v') →
      v.tree.Same v'.tree

theorem generatesAlike_of_perm {g g' : Generator} (hperm : rs.Perm rs')
    (hrs : Hierarchy.ofResources rs = .ok g.hierarchy)
    (hrs' : Hierarchy.ofResources rs' = .ok g'.hierarchy) (houtput : g.output = g'.output)
    (hheader : g.header? = g'.header?) : g.GeneratesAlike g' rs rs' where
  artifacts := by
    intro σ σ' _ _ calls calls' hcalls hcalls' hnone hnone'
    have hemitted := (Generator.calls_of_failedCalls_eq_zero hnone).1
    have hemitted' := (Generator.calls_of_failedCalls_eq_zero hnone').1
    rw [hcalls] at hemitted
    rw [hcalls'] at hemitted'
    rw [hemitted, hemitted']
    exact Generator.plan_perm hperm hrs hrs' hheader
  shown := by
    intro σ σ' _ _ calls calls' hcalls hcalls' hnone hnone' name
    have hshown := (Generator.calls_of_failedCalls_eq_zero hnone).2
    have hshown' := (Generator.calls_of_failedCalls_eq_zero hnone').2
    rw [hcalls] at hshown
    rw [hcalls'] at hshown'
    unfold Progress.shown?
    rw [hshown, hshown']
    exact lookup_shownAfter_of_perm hperm hrs hrs' name
  tree := by
    intro w w' v v' tally tally' htree hdirectory hstands hnodup hrun hrun'
    obtain ⟨hend, -, hleft, -⟩ := Conversion.generate_eq_ok hrun
    obtain ⟨hend', -, hleft', -⟩ := Conversion.generate_eq_ok hrun'
    rw [htree, hdirectory, ← houtput] at hend' hleft'
    have hplan := Generator.plan_perm hperm hrs hrs' hheader
    have hnodup' : ((g'.plan rs').map (·.location w.workingDirectory g.output)).Nodup :=
      (hplan.map _).nodup_iff.mp hnodup
    have hcompletes := FileTree.completes_emitAll hend hnodup
    have hcompletes' := FileTree.completes_emitAll hend' hnodup'
    rw [hleft, hleft']
    exact hcompletes.same hcompletes' (fun _ => hplan.mem_iff) hnodup hnodup' hstands

/-- The order of the documents decides neither whether they are accepted nor what the hierarchy
tells, nor what is generated. -/
theorem document_order_does_not_matter (hperm : rs.Perm rs') :
    ((∃ h, Hierarchy.ofResources rs = .ok h) ↔ ∃ h, Hierarchy.ofResources rs' = .ok h) ∧
    ∀ h h', Hierarchy.ofResources rs = .ok h → Hierarchy.ofResources rs' = .ok h' →
      h.Agrees h' ∧ ∀ (output : Path) (header? : Option String),
        Generator.GeneratesAlike ⟨h, output, header?⟩ ⟨h', output, header?⟩ rs rs' :=
  ⟨Hierarchy.exists_ok_of_perm hperm, fun _ _ hrs hrs' =>
    ⟨Hierarchy.agrees_of_perm hperm hrs hrs',
      fun _ _ => generatesAlike_of_perm hperm hrs hrs' rfl rfl⟩⟩

/-! ### Two documents that are swapped -/

/-- A class with a key. -/
def guest : Mapping.Entity where
  kind := .root
  name := "Guest"
  type := ⟨"Guest"⟩
  isAbstract := false
  key? := some (.simple ⟨"Code", ⟨"String"⟩, "code"⟩)
  properties := []
  manyToOnes := []
  sets := []
  derived := []

/-- A class with an association that leads to `Guest`. -/
def hut : Mapping.Entity where
  kind := .root
  name := "Hut"
  type := ⟨"Hut"⟩
  isAbstract := false
  key? := none
  properties := []
  manyToOnes := [⟨"Owner", ⟨"Guest"⟩, .column "owner"⟩]
  sets := []
  derived := []

/-- The document of the guest, and the one of the hut. -/
def guestDocument : Resource :=
  ⟨"Guest.hbm.xml", none, [guest]⟩

def hutDocument : Resource :=
  ⟨"Hut.hbm.xml", none, [hut]⟩

/-- The generator for the documents, the one of the guest first. -/
def guestGenerator : Generator where
  hierarchy := ⟨[⟨"Hut", none, none⟩, ⟨"Guest", none, some ⟨⟨"String"⟩, "Code"⟩⟩], by decide⟩
  output := ⟨""⟩
  header? := none

/-- The generator for the documents, the one of the hut first. -/
def hutGenerator : Generator where
  hierarchy := ⟨[⟨"Guest", none, some ⟨⟨"String"⟩, "Code"⟩⟩, ⟨"Hut", none, none⟩], by decide⟩
  output := ⟨""⟩
  header? := none

/-- A call for each document, on a world with nothing but a working directory. -/
def freshCalls (rs : List Resource) : List (Call World) :=
  rs.map fun r => ⟨r, Conversion.freshWorld⟩

theorem map_resource_freshCalls (rs : List Resource) :
    (freshCalls rs).map (·.resource) = rs := by
  rw [freshCalls, List.map_map]
  exact List.map_id rs

theorem stands_freshWorld :
    Conversion.freshWorld.tree.Stands Conversion.freshWorld.workingDirectory := by
  intro outer houter
  rcases List.prefix_cons_iff.mp houter with rfl | ⟨rest, rfl, hrest⟩
  · rfl
  · rw [List.prefix_nil.mp hrest]
    decide

theorem document_order_does_not_matter_hut :
    [guestDocument, hutDocument].Perm [hutDocument, guestDocument] ∧
      guestGenerator.hierarchy.Agrees hutGenerator.hierarchy ∧
      (guestGenerator.emittedIn {} (freshCalls [guestDocument, hutDocument])).flatten.Perm
        (hutGenerator.emittedIn {} (freshCalls [hutDocument, guestDocument])).flatten ∧
      ∃ tally v tally' v',
        (Conversion.generate guestGenerator [guestDocument, hutDocument]).runIn
          Conversion.freshWorld = (.ok tally, v) ∧
        (Conversion.generate hutGenerator [hutDocument, guestDocument]).runIn
          Conversion.freshWorld = (.ok tally', v') ∧
        v.tree.Same v'.tree := by
  have hperm : [guestDocument, hutDocument].Perm [hutDocument, guestDocument] := .swap _ _ []
  have hguest : Hierarchy.ofResources [guestDocument, hutDocument] =
      .ok guestGenerator.hierarchy := rfl
  have hhut : Hierarchy.ofResources [hutDocument, guestDocument] =
      .ok hutGenerator.hierarchy := rfl
  obtain ⟨-, hall⟩ := document_order_does_not_matter hperm
  obtain ⟨hagrees, halike⟩ := hall _ _ hguest hhut
  have hsame : guestGenerator.GeneratesAlike hutGenerator [guestDocument, hutDocument]
      [hutDocument, guestDocument] := halike ⟨""⟩ none
  have hnone : guestGenerator.failedCalls {}
      (freshCalls [guestDocument, hutDocument]) = 0 := by decide +kernel
  have hnone' : hutGenerator.failedCalls {}
      (freshCalls [hutDocument, guestDocument]) = 0 := by decide +kernel
  have hend : (Conversion.freshWorld.tree.emitAll Conversion.freshWorld.workingDirectory
      guestGenerator.output (guestGenerator.plan [guestDocument, hutDocument])).failure? = none :=
    Option.isNone_iff_eq_none.mp (by decide +kernel)
  have hend' : (Conversion.freshWorld.tree.emitAll Conversion.freshWorld.workingDirectory
      hutGenerator.output (hutGenerator.plan [hutDocument, guestDocument])).failure? = none :=
    Option.isNone_iff_eq_none.mp (by decide +kernel)
  have hnodup : ((guestGenerator.plan [guestDocument, hutDocument]).map
      (·.location Conversion.freshWorld.workingDirectory guestGenerator.output)).Nodup := by
    decide +kernel
  obtain ⟨tally, v, hrun⟩ := Conversion.generate_of_failure?_eq_none hend
  obtain ⟨tally', v', hrun'⟩ := Conversion.generate_of_failure?_eq_none hend'
  have hartifacts := hsame.artifacts World World _ _ (map_resource_freshCalls _)
    (map_resource_freshCalls _) hnone hnone'
  have htree := hsame.tree _ _ v v' tally tally' rfl rfl (fun _ => stands_freshWorld) hnodup
    hrun hrun'
  exact ⟨hperm, hagrees, hartifacts, tally, v, tally', v', hrun, hrun', htree⟩

end EntityScaffold
