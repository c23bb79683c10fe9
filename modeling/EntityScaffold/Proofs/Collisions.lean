import EntityScaffold.Proofs.ArtifactPaths
import EntityScaffold.Proofs.KeyAgreement
import EntityScaffold.Proofs.PathComponents

/-!
# Collisions

A list of documents in which class names are distinct may still lead two artifacts to one file: the
name of a file is put together from the package, the subpackage of its kind and the class name with
a prefix or an ending, and these can be told apart in more than one way. `Overlap` lists the ways,
and there is no other (`paths_apart_iff`).
-/

namespace EntityScaffold

open Java (qualify)
open Mapping (Entity Mapped Placed Resource)
open Text

/-! ## Names of directories and files -/

/-- The directories of a package. -/
def packageDirectories (package : String) : List String :=
  ((split '.' package.toList).filter fun part => !part.isEmpty).map String.ofList

theorem packageDirectories_empty : packageDirectories "" = [] :=
  rfl

/-- A subpackage lies in the directories of its package. -/
theorem packageDirectories_qualify (package sub : String) :
    packageDirectories (qualify package sub) =
      packageDirectories package ++ packageDirectories sub := by
  unfold qualify
  by_cases hp : package.isEmpty
  · have hnil : package = "" := by simpa using hp
    rw [if_pos hp, hnil, packageDirectories_empty, List.nil_append]
  · have htext : (package ++ "." ++ sub).toList = package.toList ++ '.' :: sub.toList := by simp
    rw [if_neg hp, packageDirectories, htext, split_append, List.filter_append, List.map_append]
    rfl

namespace Path

/-- The paths have the same components, so they lead to the same file. -/
def SameFile (p q : Path) : Prop :=
  p.isAbsolute = q.isAbsolute ∧ p.names = q.names

theorem SameFile.symm {p q : Path} (h : p.SameFile q) : q.SameFile p :=
  ⟨h.1.symm, h.2.symm⟩

/-- The path of a file in nested directories. -/
def ofParts (directories : List String) (file : String) : Path :=
  (directories.foldl enter ⟨""⟩).enter file

theorem trail_ofParts (directories : List String) (file : String) :
    (ofParts directories file).trail = trailOf (directories ++ [file]) := by
  have hempty : (⟨""⟩ : Path).trail = ⟨false, []⟩ := rfl
  have hparts : ofParts directories file = (directories ++ [file]).foldl enter ⟨""⟩ := by
    rw [List.foldl_concat, ofParts]
  rw [hparts, trail_foldl_enter, hempty, trailOf]

/-- A part with slashes leads as far as several parts do. -/
example : trailOf ["school", "base/BaseRoom.java"] = trailOf ["school", "base", "BaseRoom.java"] :=
  by decide

theorem sameFile_iff {p q : Path} : p.SameFile q ↔ p.trail = q.trail := by
  rw [trail, trail, Trail.mk.injEq, SameFile]

end Path

theorem relativePath_eq_ofParts (a : Artifact) :
    a.relativePath = Path.ofParts (packageDirectories a.package) (a.className ++ ".java") := by
  unfold Artifact.relativePath Path.ofParts packageDirectories
  rw [List.foldl_map]
  rfl

/-! ## Files of entities -/

namespace Mapping.Entity

/-- The directories of the package of an entity. -/
def directories (e : Entity) : List String :=
  packageDirectories (e.type.package?.getD "")

/-- The directories of a kind of artifact, below those of the package. -/
def subdirectories (kind : ArtifactKind) : List String :=
  packageDirectories (kind.subpackage?.getD "")

theorem packageDirectories_package (package : String) (kind : ArtifactKind) :
    packageDirectories (kind.package package) =
      packageDirectories package ++ subdirectories kind := by
  unfold ArtifactKind.package subdirectories
  cases kind.subpackage? with
  | none => exact (List.append_nil _).symm
  | some sub => exact packageDirectories_qualify package sub

theorem filePath_eq_ofParts (e : Entity) (kind : ArtifactKind) :
    e.filePath kind =
      Path.ofParts (e.directories ++ subdirectories kind)
        (kind.className e.className ++ ".java") := by
  unfold filePath directories
  rw [relativePath_eq_ofParts, packageDirectories_package]

/-- No part of the qualified name holds a slash, as it is with every name of a class. -/
def SlashFree (e : Entity) : Prop :=
  '/' ∉ e.type.qualified.toList

theorem SlashFree.directories {e : Entity} (h : e.SlashFree) :
    ∀ part ∈ e.directories, '/' ∉ part.toList ∧ Path.isIdle part.toList = false := by
  intro part hpart
  obtain ⟨piece, hpiece, rfl⟩ := List.mem_map.mp hpart
  obtain ⟨hsplit, hne⟩ := List.mem_filter.mp hpiece
  have hdot : '.' ∉ piece := not_mem_of_mem_split hsplit
  rw [String.toList_ofList]
  constructor
  · intro hslash
    have hpackage : '/' ∈ (e.type.package?.getD "").toList := mem_of_mem_split hsplit hslash
    unfold Java.TypeName.package? at hpackage
    cases hcut : cutLast '.' e.type.qualified.toList with
    | none =>
      rw [hcut] at hpackage
      exact absurd hpackage List.not_mem_nil
    | some parts =>
      rw [hcut, Option.map_some, Option.getD_some, String.toList_ofList] at hpackage
      rw [SlashFree, (cutLast_eq_some_iff.mp hcut).1] at h
      exact h (List.mem_append_left _ hpackage)
  · unfold Path.isIdle
    have hnotDot : piece ≠ ['.'] := by
      rintro rfl
      exact hdot List.mem_cons_self
    simpa [hnotDot] using hne

theorem SlashFree.className {e : Entity} (h : e.SlashFree) : '/' ∉ e.className.toList := by
  intro hslash
  unfold Entity.className Java.TypeName.simple at hslash
  cases hcut : cutLast '.' e.type.qualified.toList with
  | none =>
    rw [hcut] at hslash
    exact h hslash
  | some parts =>
    rw [hcut, String.toList_ofList] at hslash
    rw [SlashFree, (cutLast_eq_some_iff.mp hcut).1] at h
    exact h (List.mem_append_right _ (List.mem_cons_of_mem _ hslash))

theorem slash_free_subdirectories (kind : ArtifactKind) :
    ∀ part ∈ subdirectories kind, '/' ∉ part.toList ∧ Path.isIdle part.toList = false := by
  cases kind <;> decide

theorem slash_free_file {className : String} (h : '/' ∉ className.toList) (kind : ArtifactKind) :
    '/' ∉ (kind.className className ++ ".java").toList ∧
      Path.isIdle (kind.className className ++ ".java").toList = false := by
  constructor
  · cases kind <;> simpa [ArtifactKind.className] using h
  · unfold Path.isIdle
    rw [String.toList_append]
    generalize (kind.className className).toList = name
    cases name <;> simp

/-- What the path of an artifact leads through: the directories of the package, those of the
subpackage and the file. -/
def trail (e : Entity) (kind : ArtifactKind) : Path.Trail :=
  Path.trailOf (e.directories ++ subdirectories kind ++ [kind.className e.className ++ ".java"])

theorem trail_filePath (e : Entity) (kind : ArtifactKind) :
    (e.filePath kind).trail = e.trail kind := by
  rw [filePath_eq_ofParts, Path.trail_ofParts, trail]

theorem sameFile_filePath_iff {e f : Entity} {kind kind' : ArtifactKind} :
    (e.filePath kind).SameFile (f.filePath kind') ↔ e.trail kind = f.trail kind' := by
  rw [Path.sameFile_iff, trail_filePath, trail_filePath]

theorem trail_of_slash_free {e : Entity} (h : e.SlashFree) (kind : ArtifactKind) :
    e.trail kind =
      ⟨false, e.directories ++ subdirectories kind ++ [kind.className e.className ++ ".java"]⟩ := by
  refine Path.foldl_enter_of_slash_free (fun part hpart => ?_) ⟨false, []⟩
  simp only [List.mem_append, List.mem_singleton] at hpart
  rcases hpart with (hpart | hpart) | rfl
  · exact h.directories part hpart
  · exact slash_free_subdirectories kind part hpart
  · exact slash_free_file h.className kind

/-- Two artifacts go to one file when their directories and their class names are equal. -/
theorem sameFile_of_eq {e f : Entity} {kind kind' : ArtifactKind}
    (hdirectories : e.directories ++ subdirectories kind = f.directories ++ subdirectories kind')
    (hname : kind.className e.className = kind'.className f.className) :
    (e.filePath kind).SameFile (f.filePath kind') := by
  rw [filePath_eq_ofParts, filePath_eq_ofParts, hdirectories, hname]
  exact ⟨rfl, rfl⟩

/-- Without slashes there is no other way. -/
theorem eq_of_sameFile {e f : Entity} (he : e.SlashFree) (hf : f.SlashFree)
    {kind kind' : ArtifactKind} (h : (e.filePath kind).SameFile (f.filePath kind')) :
    e.directories ++ subdirectories kind = f.directories ++ subdirectories kind' ∧
      kind.className e.className = kind'.className f.className := by
  rw [sameFile_filePath_iff, trail_of_slash_free he, trail_of_slash_free hf] at h
  obtain ⟨hdirectories, hfile⟩ := List.append_inj' (congrArg Path.Trail.names h) rfl
  exact ⟨hdirectories, (String.append_left_inj ".java").mp (List.singleton_inj.mp hfile)⟩

end Mapping.Entity

/-! ## Overlaps -/

open Mapping.Entity (subdirectories)

/-- The ways in which artifacts of two entities come to one file. -/
inductive Overlap (e f : Entity) : Prop
  /-- The base class of `e` is the base class of the access object of `f`. -/
  | baseIsAccessBase (hdirectories : e.directories = f.directories)
      (hname : e.className = f.className ++ "DAO")
  /-- The class `e` is the base class of `f`. -/
  | concreteIsBase (hdirectories : e.directories = f.directories ++ ["base"])
      (hname : e.className = "Base" ++ f.className)
  /-- The class `e` is the base class of the access object of `f`. -/
  | concreteIsAccessBase (hdirectories : e.directories = f.directories ++ ["base"])
      (hname : e.className = "Base" ++ f.className ++ "DAO")
  /-- The class `e` is the access object of `f`. -/
  | concreteIsAccess (hdirectories : e.directories = f.directories ++ ["dao"])
      (hname : e.className = f.className ++ "DAO")
  /-- A name holds a slash, so that its parts have several components or start at the root, and
  the components are equal. -/
  | slashed (hslash : ¬ (e.SlashFree ∧ f.SlashFree)) (kind kind' : ArtifactKind)
      (hne : e.className ≠ f.className ∨ kind ≠ kind') (htrail : e.trail kind = f.trail kind')

theorem subdirectories_eq (kind : ArtifactKind) :
    subdirectories kind =
      match kind with
      | .base | .accessBase => ["base"]
      | .concrete => []
      | .access => ["dao"] := by
  cases kind <;> decide

/-- Artifacts of one kind tell their entities apart. -/
theorem ArtifactKind.className_inj {kind : ArtifactKind} {name name' : String}
    (h : kind.className name = kind.className name') : name = name' := by
  cases kind with
  | base => exact (String.append_right_inj "Base").mp h
  | concrete => exact h
  | accessBase => exact (String.append_right_inj "Base").mp ((String.append_left_inj "DAO").mp h)
  | access => exact (String.append_left_inj "DAO").mp h

theorem base_ne_dao {directories directories' : List String} :
    directories ++ ["base"] ≠ directories' ++ ["dao"] := by
  intro h
  have := List.singleton_inj.mp (List.append_inj' h rfl).2
  exact absurd this (by decide)

/-- Two artifacts that come to one file show an overlap of their entities. -/
theorem overlap_of_sameFile {e f : Entity} {kind kind' : ArtifactKind}
    (hne : e.className ≠ f.className ∨ kind ≠ kind')
    (h : (e.filePath kind).SameFile (f.filePath kind')) : Overlap e f ∨ Overlap f e := by
  by_cases hslash : ¬ (e.SlashFree ∧ f.SlashFree)
  · exact .inl (.slashed hslash kind kind' hne (Mapping.Entity.sameFile_filePath_iff.mp h))
  obtain ⟨he, hf⟩ := Classical.not_not.mp hslash
  obtain ⟨hdirectories, hname⟩ := Mapping.Entity.eq_of_sameFile he hf h
  have hkinds : kind ≠ kind' := by
    rintro rfl
    exact hne.elim (fun h => h (ArtifactKind.className_inj hname)) fun h => h rfl
  rw [subdirectories_eq, subdirectories_eq] at hdirectories
  -- two kinds differ in the subpackage, in the class name or in both; each pair is its own case
  cases kind with
  | base =>
    cases kind' with
    | base => exact absurd rfl hkinds
    | concrete => exact .inr (.concreteIsBase ((List.append_nil _).symm.trans hdirectories.symm)
        hname.symm)
    | accessBase =>
      refine .inl (.baseIsAccessBase (List.append_cancel_right hdirectories) ?_)
      exact (String.append_right_inj "Base").mp (hname.trans (String.append_assoc ..))
    | access => exact absurd hdirectories base_ne_dao
  | concrete =>
    rw [List.append_nil] at hdirectories
    cases kind' with
    | base => exact .inl (.concreteIsBase hdirectories hname)
    | concrete => exact absurd rfl hkinds
    | accessBase => exact .inl (.concreteIsAccessBase hdirectories hname)
    | access => exact .inl (.concreteIsAccess hdirectories hname)
  | accessBase =>
    cases kind' with
    | base =>
      refine .inr (.baseIsAccessBase (List.append_cancel_right hdirectories).symm ?_)
      exact (String.append_right_inj "Base").mp (hname.symm.trans (String.append_assoc ..))
    | concrete =>
      rw [List.append_nil] at hdirectories
      exact .inr (.concreteIsAccessBase hdirectories.symm hname.symm)
    | accessBase => exact absurd rfl hkinds
    | access => exact absurd hdirectories base_ne_dao
  | access =>
    cases kind' with
    | base => exact absurd hdirectories.symm base_ne_dao
    | concrete =>
      rw [List.append_nil] at hdirectories
      exact .inr (.concreteIsAccess hdirectories.symm hname.symm)
    | accessBase => exact absurd hdirectories.symm base_ne_dao
    | access => exact absurd rfl hkinds

/-- Every overlap brings two artifacts to one file. -/
theorem Overlap.exists_sameFile {e f : Entity} (h : Overlap e f) :
    ∃ kind kind', (e.className ≠ f.className ∨ kind ≠ kind') ∧
      (e.filePath kind).SameFile (f.filePath kind') := by
  cases h with
  | baseIsAccessBase hdirectories hname =>
    refine ⟨.base, .accessBase, .inr nofun, Mapping.Entity.sameFile_of_eq ?_ ?_⟩
    · rw [hdirectories]
      rfl
    · rw [hname]
      exact (String.append_assoc ..).symm
  | concreteIsBase hdirectories hname =>
    refine ⟨.concrete, .base, .inr nofun, Mapping.Entity.sameFile_of_eq ?_ hname⟩
    rw [hdirectories, List.append_assoc]
    rfl
  | concreteIsAccessBase hdirectories hname =>
    refine ⟨.concrete, .accessBase, .inr nofun, Mapping.Entity.sameFile_of_eq ?_ hname⟩
    rw [hdirectories, List.append_assoc]
    rfl
  | concreteIsAccess hdirectories hname =>
    refine ⟨.concrete, .access, .inr nofun, Mapping.Entity.sameFile_of_eq ?_ hname⟩
    rw [hdirectories, List.append_assoc]
    rfl
  | slashed _ kind kind' hne htrail =>
    exact ⟨kind, kind', hne, Mapping.Entity.sameFile_filePath_iff.mpr htrail⟩

/-! ## Paths of a plan -/

/-- Two members of a list are the same or related, if all its members are related pairwise. -/
theorem eq_or_of_pairwise {α : Type} {R : α → α → Prop} [Std.Symm R] {l : List α}
    (h : l.Pairwise R) : ∀ a ∈ l, ∀ b ∈ l, a = b ∨ R a b := by
  induction l with
  | nil => exact fun a ha => absurd ha List.not_mem_nil
  | cons c l ih =>
    obtain ⟨hc, hl⟩ := List.pairwise_cons.mp h
    intro a ha b hb
    rcases List.mem_cons.mp ha with hac | hal
    · rcases List.mem_cons.mp hb with hbc | hbl
      · exact .inl (hac.trans hbc.symm)
      · exact .inr (hac ▸ hc b hbl)
    · rcases List.mem_cons.mp hb with hbc | hbl
      · exact .inr (hbc ▸ Std.Symm.symm _ _ (hc a hal))
      · exact ih hl a hal b hbl

/-- A symmetric relation between all members of a list whose members are told apart by `f`. -/
theorem pairwise_iff_of_nodup_map {α β : Type} {R : α → α → Prop} [Std.Symm R] {f : α → β}
    {l : List α} (hnodup : (l.map f).Nodup) :
    l.Pairwise R ↔ ∀ a ∈ l, ∀ b ∈ l, f a ≠ f b → R a b := by
  constructor
  · intro h a ha b hb hne
    exact (eq_or_of_pairwise h a ha b hb).resolve_left fun hab => hne (congrArg f hab)
  · intro h
    have hdistinct : l.Pairwise fun a b => f a ≠ f b := List.pairwise_map.mp hnodup
    exact hdistinct.imp_of_mem fun ha hb hne => h _ ha _ hb hne

instance symm_ne_map {α β : Type} (f : α → β) : Std.Symm fun a b : α => f a ≠ f b :=
  ⟨fun _ _ h => h.symm⟩

instance symm_kinds_apart (e : Entity) : Std.Symm fun kind kind' : ArtifactKind =>
    ¬ (e.filePath kind).SameFile (e.filePath kind') :=
  ⟨fun _ _ h hsame => h hsame.symm⟩

instance symm_entities_apart : Std.Symm fun p q : Placed =>
    ∀ path ∈ ArtifactKind.all.map p.entity.filePath,
      ∀ path' ∈ ArtifactKind.all.map q.entity.filePath, ¬ path.SameFile path' :=
  ⟨fun _ _ h path hpath path' hpath' hsame => h path' hpath' path hpath hsame.symm⟩

theorem ArtifactKind.mem_all (kind : ArtifactKind) : kind ∈ all := by
  cases kind <;> decide

/-- The paths of all artifacts are distinct if the artifacts of different kinds are, and those of
different entities. -/
theorem pairwise_plan_iff {rs : List Resource} {h : Hierarchy}
    (hrs : Hierarchy.ofResources rs = .ok h) (g : Generator) :
    ((g.plan rs).Pairwise fun a b => ¬ a.relativePath.SameFile b.relativePath) ↔
      ∀ p q, Mapped rs p → Mapped rs q → ∀ kind kind',
        (p.entity.className ≠ q.entity.className ∨ kind ≠ kind') →
          ¬ (p.entity.filePath kind).SameFile (q.entity.filePath kind') := by
  have hclasses := Hierarchy.nodup_classNames hrs
  have hkinds : (ArtifactKind.all.map id).Nodup := by decide
  rw [← List.pairwise_map (R := fun p q : Path => ¬ p.SameFile q), Generator.plan,
    Generator.map_relativePath_planFrom, List.pairwise_flatMap,
    pairwise_iff_of_nodup_map hclasses]
  simp only [List.pairwise_map, List.forall_mem_map]
  constructor
  · rintro ⟨hown, hothers⟩ p q hp hq kind kind' hne
    rw [← Mapping.mem_placed_iff] at hp hq
    by_cases hname : p.entity.className = q.entity.className
    · have hpq : p = q :=
        (eq_or_of_pairwise (List.pairwise_map.mp hclasses) p hp q hq).resolve_right
          fun hne => hne hname
      rw [← hpq]
      exact (pairwise_iff_of_nodup_map hkinds).mp (hown p hp) kind kind.mem_all kind'
        kind'.mem_all (hne.resolve_left fun h => h hname)
    · exact hothers p hp q hq hname kind kind.mem_all kind' kind'.mem_all
  · intro hapart
    refine ⟨fun p hp => ?_, fun p hp q hq hname kind _ kind' _ => ?_⟩
    · rw [Mapping.mem_placed_iff] at hp
      exact (pairwise_iff_of_nodup_map hkinds).mpr fun kind _ kind' _ hne =>
        hapart p p hp hp kind kind' (.inr hne)
    · rw [Mapping.mem_placed_iff] at hp hq
      exact hapart p q hp hq kind kind' (.inl hname)

/-- The paths of all artifacts of accepted documents are distinct, up to the way they are written,
exactly if no two of the mapped entities overlap. -/
theorem paths_apart_iff {rs : List Resource} {h : Hierarchy}
    (hrs : Hierarchy.ofResources rs = .ok h) (g : Generator) :
    ((g.plan rs).Pairwise fun a b => ¬ a.relativePath.SameFile b.relativePath) ↔
      ∀ p q, Mapped rs p → Mapped rs q → ¬ Overlap p.entity q.entity := by
  rw [pairwise_plan_iff hrs]
  constructor
  · intro hapart p q hp hq hoverlap
    obtain ⟨kind, kind', hne, hsame⟩ := hoverlap.exists_sameFile
    exact hapart p q hp hq kind kind' hne hsame
  · intro hnone p q hp hq kind kind' hne hsame
    rcases overlap_of_sameFile hne hsame with hoverlap | hoverlap
    · exact hnone p q hp hq hoverlap
    · exact hnone q p hq hp hoverlap

theorem paths_apart_school :
    Hierarchy.ofResources Scaffold.schoolResources = .ok Scaffold.schoolHierarchy ∧
      ((⟨Scaffold.schoolHierarchy, ⟨"out"⟩, none⟩ : Generator).plan
        Scaffold.schoolResources).Pairwise
          fun a b => ¬ a.relativePath.SameFile b.relativePath := by
  have hresources : Hierarchy.ofResources Scaffold.schoolResources =
      .ok Scaffold.schoolHierarchy := rfl
  have hall : ∀ p ∈ Scaffold.schoolResources.flatMap (·.placed),
      '/' ∉ p.entity.type.qualified.toList ∧ p.entity.directories = ["school"] ∧
        p.entity.className ∈ ["Room", "Person", "Student"] := by decide
  have hnames : ∀ name ∈ ["Room", "Person", "Student"],
      name ++ "DAO" ∉ ["Room", "Person", "Student"] := by decide
  refine ⟨hresources, (paths_apart_iff hresources _).mpr fun p q hp hq hoverlap => ?_⟩
  obtain ⟨hp, hdirectories, hname⟩ := hall p (Mapping.mem_placed_iff.mpr hp)
  obtain ⟨hq, hdirectories', hname'⟩ := hall q (Mapping.mem_placed_iff.mpr hq)
  cases hoverlap with
  | baseIsAccessBase _ h => exact hnames _ hname' (h ▸ hname)
  | concreteIsBase h _ => rw [hdirectories, hdirectories'] at h; exact absurd h (by decide)
  | concreteIsAccessBase h _ => rw [hdirectories, hdirectories'] at h; exact absurd h (by decide)
  | concreteIsAccess h _ => rw [hdirectories, hdirectories'] at h; exact absurd h (by decide)
  | slashed h => exact h ⟨hp, hq⟩

/-! ### A class that looks like a base class -/

/-- A class without members. -/
def bareClass (name qualified : String) : Entity where
  kind := .root
  name := name
  type := ⟨qualified⟩
  isAbstract := false
  key? := none
  properties := []
  manyToOnes := []
  sets := []
  derived := []

/-- Two documents, where the class of the second is named like the base class of the first. -/
def lookalikeResources : List Resource :=
  [⟨"Room.hbm.xml", some "school", [bareClass "Room" "school.Room"]⟩,
    ⟨"BaseRoom.hbm.xml", some "school.base", [bareClass "BaseRoom" "school.base.BaseRoom"]⟩]

/-- The documents are accepted although two of their artifacts go to one file. -/
theorem paths_collide_lookalike :
    ∃ h, Hierarchy.ofResources lookalikeResources = .ok h ∧ ∀ g : Generator,
      ¬ (g.plan lookalikeResources).Pairwise
        fun a b => ¬ a.relativePath.SameFile b.relativePath := by
  have hresources : Hierarchy.ofResources lookalikeResources =
      .ok ⟨[⟨"BaseRoom", none, none⟩, ⟨"Room", none, none⟩], by decide⟩ := rfl
  refine ⟨_, hresources, fun g hapart => ?_⟩
  have hroom : Mapped lookalikeResources ⟨bareClass "Room" "school.Room", []⟩ :=
    ⟨_, List.mem_cons_self, .root List.mem_cons_self⟩
  have hlookalike :
      Mapped lookalikeResources ⟨bareClass "BaseRoom" "school.base.BaseRoom", []⟩ :=
    ⟨_, List.mem_cons_of_mem _ List.mem_cons_self, .root List.mem_cons_self⟩
  have hoverlap : Overlap (bareClass "BaseRoom" "school.base.BaseRoom")
      (bareClass "Room" "school.Room") := .concreteIsBase (by decide) (by decide)
  obtain ⟨kind, kind', hne, hsame⟩ := hoverlap.exists_sameFile
  exact (pairwise_plan_iff hresources g).mp hapart _ _ hlookalike hroom kind kind' hne hsame

end EntityScaffold
