import Mathlib.Data.List.Nodup
import EntityScaffold.Proofs.Emissions
import EntityScaffold.Proofs.PathAncestors

/-!
# Trees in which artifacts are complete

When all of a list of artifacts were emitted, what stands in the tree depends on the tree before and
on which artifacts these were, but not on their order (`Completes.same`), provided that each goes to
a file of its own. A place that was free holds a directory if the path of an artifact passes it, the
artifact that goes there if there is one, and else nothing.

A relative path starts in the working directory. If that stands in the tree, with all directories
around it, a path that leads to a directory has only passed directories
(`isDirectory_of_mem_ancestors`). An absolute path starts at the root, which always stands.
-/

namespace EntityScaffold

namespace FileTree

variable {t u v : FileTree} {workingDirectory here there : Location} {output p q : Path}
  {a : Artifact} {as bs : List Artifact} {outcome : Outcome}

/-- A location is a directory, and so is all that it lies in. -/
def Stands (t : FileTree) (location : Location) : Prop :=
  ∀ outer, outer <+: location → t.find? outer = some .directory

theorem stands_root (t : FileTree) : t.Stands [] := by
  intro outer houter
  rw [List.prefix_nil.mp houter]
  exact t.find?_root

theorem Stands.mono (h : t.Stands here) (hkeeps : KeepsDirectories t u) : u.Stands here :=
  fun outer houter => hkeeps outer (h outer houter)

theorem Stands.follow {name : String} (h : t.Stands here) (henters : t.Enters here name) :
    t.Stands (Location.follow here name) := by
  unfold Location.follow
  split
  · exact h
  · next hdot =>
    split
    · exact fun outer houter => h outer (houter.trans (List.dropLast_prefix here))
    · next hup =>
      obtain ⟨-, hnode⟩ := (henters.resolve_left hdot).resolve_left hup
      intro outer houter
      rcases List.prefix_concat_iff.mp houter with rfl | houter
      · exact hnode
      · exact h outer houter

/-- From a standing location a path comes to standing locations only. -/
theorem Stands.walk {names : List String} (h : t.Stands here)
    (hwalk : t.walk here names = .ok there) : t.Stands there := by
  induction names generalizing here with
  | nil =>
    cases hwalk
    exact h
  | cons name names ih =>
    obtain ⟨henters, hrest⟩ := walk_cons_eq_ok_iff.mp hwalk
    exact ih (h.follow henters) hrest

theorem walk_append_eq_ok_iff {names more : List String} :
    t.walk here (names ++ more) = .ok there ↔
      ∃ between, t.walk here names = .ok between ∧ t.walk between more = .ok there := by
  induction names generalizing here with
  | nil =>
    constructor
    · exact fun h => ⟨here, rfl, h⟩
    · rintro ⟨between, hnil, h⟩
      cases hnil
      exact h
  | cons name names ih =>
    rw [List.cons_append, walk_cons_eq_ok_iff, ih]
    constructor
    · rintro ⟨henters, between, hnames, hmore⟩
      exact ⟨between, walk_cons_eq_ok_iff.mpr ⟨henters, hnames⟩, hmore⟩
    · rintro ⟨between, hnames, hmore⟩
      obtain ⟨henters, hnames⟩ := walk_cons_eq_ok_iff.mp hnames
      exact ⟨henters, between, hnames, hmore⟩

/-- The last name of a path that leads to a directory can be passed as well. -/
theorem enters_of_slotIn {s : Slot} {name : String}
    (hslot : slotIn p here = .ok s) (hlast : (pathNames p).getLast? = some name)
    (hnode : t.find? s.location = some .directory) : t.Enters here name := by
  unfold slotIn at hslot
  rw [hlast] at hslot
  simp only at hslot
  split at hslot
  · next hdot => exact .inl hdot
  split at hslot
  · next hup => exact .inr (.inl hup)
  split at hslot
  · cases hslot
  · next hshort =>
    cases hslot
    exact .inr (.inr ⟨Nat.le_of_not_gt hshort, hnode⟩)

theorem walk_of_holdsDirectory (h : t.holdsDirectory workingDirectory p = true) :
    ∃ there, t.walk (if p.isAbsolute then [] else workingDirectory) (pathNames p) = .ok there := by
  obtain ⟨s, hslot, hnode⟩ := holdsDirectory_iff.mp h
  obtain ⟨-, directory, hwalk, hlast⟩ := slot_eq_ok_iff.mp hslot
  rcases List.eq_nil_or_concat (pathNames p) with hnil | ⟨names, name, hnames⟩
  · rw [hnil] at hwalk ⊢
    exact ⟨directory, hwalk⟩
  · rw [List.concat_eq_append] at hnames
    have henters : t.Enters directory name := by
      refine enters_of_slotIn hlast ?_ hnode
      rw [hnames, List.getLast?_concat]
    rw [hnames, List.dropLast_concat] at hwalk
    rw [hnames]
    exact ⟨_, walk_append_eq_ok_iff.mpr
      ⟨directory, hwalk, walk_cons_eq_ok_iff.mpr ⟨henters, rfl⟩⟩⟩

/-- A path that leads to a directory passes only directories. -/
theorem isDirectory_of_mem_ancestors
    (hstands : p.isAbsolute = false → t.Stands workingDirectory)
    (h : t.holdsDirectory workingDirectory p = true) (hq : q ∈ p.ancestors) :
    t.find? (q.location workingDirectory) = some .directory := by
  obtain ⟨habsolute, more, hnames⟩ := Path.pathNames_of_mem_ancestors hq
  obtain ⟨there, hwalk⟩ := walk_of_holdsDirectory h
  rw [← hnames, ← habsolute] at hwalk
  obtain ⟨between, hbetween, -⟩ := walk_append_eq_ok_iff.mp hwalk
  have hstart : t.Stands (if q.isAbsolute then [] else workingDirectory) := by
    split
    · exact t.stands_root
    · next hrelative => exact hstands (by simpa [habsolute] using hrelative)
  have hlocation : between = q.location workingDirectory := location_of_walk hbetween
  rw [← hlocation]
  exact hstart.walk hbetween between List.prefix_rfl

/-! ## What emissions leave at a place -/

/-- The path of a settled artifact passes only directories. -/
theorem Settled.isDirectory (h : Settled workingDirectory output t a)
    (hstands : output.isAbsolute = false → t.Stands workingDirectory) {place : Location}
    (hplace : LeadsThrough workingDirectory (a.pathBelow output) place) :
    t.find? place = some .directory := by
  obtain ⟨directory, hparent, p, hp, rfl⟩ := hplace
  have hrelative : directory.isAbsolute = false → t.Stands workingDirectory := by
    intro hdirectory
    apply hstands
    cases houtput : output.isAbsolute with
    | false => rfl
    | true =>
      have hpath := Path.isAbsolute_join_of_isAbsolute houtput a.relativePath
      rw [← Artifact.pathBelow, ← (Path.pathNames_parent? hparent).1, hdirectory] at hpath
      cases hpath
  rcases h.parent directory hparent with hempty | hholds
  · -- the empty path stays in the working directory
    have hdirectory : directory = ⟨""⟩ := by
      cases directory
      simpa using hempty
    rw [hdirectory] at hp hrelative
    rw [Path.ancestors_of_parent?_eq_none rfl] at hp
    rw [List.mem_singleton.mp hp]
    exact hrelative rfl _ List.prefix_rfl
  · exact isDirectory_of_mem_ancestors hrelative hholds hp

/-- Something stands in the place of a settled artifact. -/
theorem Settled.isSome (h : Settled workingDirectory output t a) :
    (t.find? (a.location workingDirectory output)).isSome := by
  cases hpolicy : a.kind.policy with
  | overwrite =>
    obtain ⟨contents, hread⟩ := h.owned hpolicy
    obtain ⟨s, hslot, -, hnode⟩ := read_eq_ok_iff.mp hread
    rw [location_of_slot hslot] at hnode
    rw [Artifact.location, hnode]
    rfl
  | createOnly =>
    obtain ⟨s, hslot, -, hsome⟩ := create_eq_alreadyExists_iff.mp (h.created hpolicy)
    rw [location_of_slot hslot] at hsome
    exact hsome

/-- What stands in a place that was free: nothing, a directory on the way to a file of the
artifacts, or the file of one of them. -/
def Filled (workingDirectory : Location) (output : Path) (as : List Artifact) (u : FileTree)
    (place : Location) : Prop :=
  u.find? place = none ∨
    (u.find? place = some .directory ∧
      ∃ a ∈ as, LeadsThrough workingDirectory (a.pathBelow output) place) ∨
    ∃ a ∈ as, a.location workingDirectory output = place ∧ u.find? place = some (.file a.bytes)

theorem putFile_eq_ok {ready : FileTree} {contents : ByteArray} {policy : WritePolicy}
    (h : ready.putFile workingDirectory p contents policy = (.ok outcome, u)) (place : Location) :
    u.find? place = ready.find? place ∨
      p.location workingDirectory = place ∧ u.find? place = some (.file contents) := by
  cases policy with
  | overwrite =>
    rw [(overwrite_spec h).2.2]
    by_cases hplace : place = p.location workingDirectory
    · exact .inr ⟨hplace.symm, if_pos hplace⟩
    · exact .inl (if_neg hplace)
  | createOnly =>
    rcases createOnce_eq_ok h with ⟨-, hcreate⟩ | ⟨-, rfl, -⟩
    · rw [find?_create hcreate]
      by_cases hplace : place = p.location workingDirectory
      · exact .inr ⟨hplace.symm, if_pos hplace⟩
      · exact .inl (if_neg hplace)
    · exact .inl rfl

theorem filled_emit (h : t.emit workingDirectory output a = (.ok outcome, u)) {place : Location}
    (hfree : t.find? place = none) : Filled workingDirectory output [a] u place := by
  obtain ⟨ready, hadds, -, hput⟩ := emit_eq_ok h
  rcases putFile_eq_ok hput place with hsame | ⟨hplace, hfile⟩
  · rcases hadds place with hready | ⟨hthrough, -, hready⟩
    · exact .inl (hsame.trans (hready.trans hfree))
    · exact .inr (.inl ⟨hsame.trans hready, a, List.mem_cons_self, hthrough⟩)
  · exact .inr (.inr ⟨a, List.mem_cons_self, hplace, hfile⟩)

theorem Filled.mono {place : Location} (h : Filled workingDirectory output as u place)
    (hmore : ∀ a ∈ as, a ∈ bs) : Filled workingDirectory output bs u place :=
  h.imp_right <| Or.imp
    (And.imp_right fun ⟨a, ha, hthrough⟩ => ⟨a, hmore a ha, hthrough⟩)
    fun ⟨a, ha, hfile⟩ => ⟨a, hmore a ha, hfile⟩

theorem filled_emitAll (hend : (t.emitAll workingDirectory output as).failure? = none)
    (hnodup : (as.map (·.location workingDirectory output)).Nodup) {place : Location}
    (hfree : t.find? place = none) :
    Filled workingDirectory output as (t.emitAll workingDirectory output as).tree place := by
  induction as generalizing t with
  | nil => exact .inl hfree
  | cons a as ih =>
    obtain ⟨hfresh, hrest⟩ := List.nodup_cons.mp hnodup
    rw [emitAll] at hend ⊢
    rcases hemit : t.emit workingDirectory output a with ⟨failure | outcome, v⟩
    · rw [hemit] at hend
      cases hend
    rw [hemit] at hend
    have hlater := v.retains_emitAll workingDirectory output as
    rcases filled_emit hemit hfree with hnone | ⟨hdirectory, b, hb, hthrough⟩ |
      ⟨b, hb, hplace, hfile⟩
    · exact (ih hend hrest hnone).mono fun b hb => List.mem_cons_of_mem a hb
    · rw [List.mem_singleton.mp hb] at hthrough
      exact .inr (.inl ⟨hlater.directory place hdirectory, a, List.mem_cons_self, hthrough⟩)
    · rw [List.mem_singleton.mp hb] at hplace hfile
      obtain ⟨contents, hkept, hsame | ⟨c, hc, howns⟩⟩ := hlater.file place _ hfile
      · rw [hsame] at hkept
        exact .inr (.inr ⟨a, List.mem_cons_self, hplace, hkept⟩)
      · -- no other artifact goes to this place
        exact absurd (List.mem_map.mpr ⟨c, hc, howns.2.trans hplace.symm⟩) hfresh

/-! ## Completed trees -/

/-- What can be told of the tree after all of a list of artifacts were emitted, each to a file of
its own, without the order in which they were. -/
structure Completes (workingDirectory : Location) (output : Path) (as : List Artifact)
    (t u : FileTree) : Prop where
  settled : ∀ a ∈ as, Settled workingDirectory output u a
  retains : Retains (fun place => ∃ a ∈ as, a.Owns workingDirectory output place) t u
  contents : ∀ a ∈ as, a.kind.policy = .overwrite →
    u.find? (a.location workingDirectory output) = some (.file a.bytes)
  filled : ∀ place, t.find? place = none → Filled workingDirectory output as u place

theorem nodup_ownedLocations (h : (as.map (·.location workingDirectory output)).Nodup) :
    (ownedLocations workingDirectory output as).Nodup :=
  h.sublist (List.filter_sublist.map _)

theorem completes_emitAll (hend : (t.emitAll workingDirectory output as).failure? = none)
    (hnodup : (as.map (·.location workingDirectory output)).Nodup) :
    Completes workingDirectory output as t (t.emitAll workingDirectory output as).tree where
  settled := fun _ ha => settled_of_emitAll hend ha
  retains := t.retains_emitAll workingDirectory output as
  contents := by
    intro a ha hpolicy
    exact find?_emitAll_of_lastContents? hend
      (lastContents?_of_nodup (nodup_ownedLocations hnodup) ha ⟨hpolicy, rfl⟩)
  filled := fun _ hfree => filled_emitAll hend hnodup hfree

namespace Completes

/-- Artifacts that go to one place are the same. -/
theorem eq_of_location (hnodup : (as.map (·.location workingDirectory output)).Nodup) {b : Artifact}
    (ha : a ∈ as) (hb : b ∈ as)
    (hplace : a.location workingDirectory output = b.location workingDirectory output) : a = b :=
  List.inj_on_of_nodup_map hnodup ha hb hplace

/-- A place that was free and that no path passes has the file of the artifact for it. -/
theorem find?_of_location (h : Completes workingDirectory output as t u)
    (hnodup : (as.map (·.location workingDirectory output)).Nodup) {place : Location}
    (hfree : t.find? place = none)
    (hthrough : ¬ ∃ a ∈ as, LeadsThrough workingDirectory (a.pathBelow output) place)
    (ha : a ∈ as) (hplace : a.location workingDirectory output = place) :
    u.find? place = some (.file a.bytes) := by
  have hsome := (h.settled a ha).isSome
  rw [hplace] at hsome
  rcases h.filled place hfree with hnone | ⟨-, hpassed⟩ | ⟨b, hb, hgoes, hfile⟩
  · rw [hnone] at hsome
    cases hsome
  · exact absurd hpassed hthrough
  · rw [eq_of_location hnodup ha hb (hplace.trans hgoes.symm)]
    exact hfile

/-- A place that was free and that no artifact needs stays free. -/
theorem find?_of_unused (h : Completes workingDirectory output as t u) {place : Location}
    (hfree : t.find? place = none)
    (hthrough : ¬ ∃ a ∈ as, LeadsThrough workingDirectory (a.pathBelow output) place)
    (hgoes : ¬ ∃ a ∈ as, a.location workingDirectory output = place) :
    u.find? place = none := by
  rcases h.filled place hfree with hnone | ⟨-, hpassed⟩ | ⟨b, hb, hplace, -⟩
  · exact hnone
  · exact absurd hpassed hthrough
  · exact absurd ⟨b, hb, hplace⟩ hgoes

/-- A tree is completed by the same artifacts to the same tree, whatever their order. -/
theorem same (h : Completes workingDirectory output as t u)
    (h' : Completes workingDirectory output bs t v) (hmem : ∀ a, a ∈ as ↔ a ∈ bs)
    (hnodup : (as.map (·.location workingDirectory output)).Nodup)
    (hnodup' : (bs.map (·.location workingDirectory output)).Nodup)
    (hstands : output.isAbsolute = false → t.Stands workingDirectory) : u.Same v := by
  have hstands' {u : FileTree} (hkeeps : KeepsDirectories t u)
      (hrelative : output.isAbsolute = false) : u.Stands workingDirectory :=
    (hstands hrelative).mono hkeeps
  intro place
  cases hold : t.find? place with
  | some node =>
    cases node with
    | directory => rw [h.retains.directory place hold, h'.retains.directory place hold]
    | file old =>
      obtain ⟨contents, hu, hkept⟩ := h.retains.file place old hold
      obtain ⟨contents', hv, hkept'⟩ := h'.retains.file place old hold
      by_cases howned : ∃ a ∈ as, a.Owns workingDirectory output place
      · obtain ⟨a, ha, hpolicy, rfl⟩ := howned
        rw [h.contents a ha hpolicy, h'.contents a ((hmem a).mp ha) hpolicy]
      · have howned' : ¬ ∃ b ∈ bs, b.Owns workingDirectory output place := by
          rintro ⟨b, hb, howns⟩
          exact howned ⟨b, (hmem b).mpr hb, howns⟩
        rw [hu, hv, hkept.resolve_right howned, hkept'.resolve_right howned']
  | none =>
    -- the place is on the way to a file, or the place of a file, or neither
    by_cases hthrough : ∃ a ∈ as, LeadsThrough workingDirectory (a.pathBelow output) place
    · obtain ⟨a, ha, hpassed⟩ := hthrough
      rw [(h.settled a ha).isDirectory (hstands' h.retains.keepsDirectories) hpassed,
        (h'.settled a ((hmem a).mp ha)).isDirectory (hstands' h'.retains.keepsDirectories) hpassed]
    have hthrough' : ¬ ∃ b ∈ bs, LeadsThrough workingDirectory (b.pathBelow output) place := by
      rintro ⟨b, hb, hpassed⟩
      exact hthrough ⟨b, (hmem b).mpr hb, hpassed⟩
    by_cases hgoes : ∃ a ∈ as, a.location workingDirectory output = place
    · obtain ⟨a, ha, hplace⟩ := hgoes
      rw [h.find?_of_location hnodup hold hthrough ha hplace,
        h'.find?_of_location hnodup' hold hthrough' ((hmem a).mp ha) hplace]
    · have hgoes' : ¬ ∃ b ∈ bs, b.location workingDirectory output = place := by
        rintro ⟨b, hb, hplace⟩
        exact hgoes ⟨b, (hmem b).mpr hb, hplace⟩
      rw [h.find?_of_unused hold hthrough hgoes, h'.find?_of_unused hold hthrough' hgoes']

end Completes

end FileTree

end EntityScaffold
