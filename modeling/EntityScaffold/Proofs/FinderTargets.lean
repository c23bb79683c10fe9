import EntityScaffold.Proofs.ImportClosure

/-!
# Targets of finders

An association names the class it leads to with its package, while the hierarchy is asked for a key
by simple name. Among mapped classes this is no matter, since no two of them share a simple name: a
finder for a mapped target binds the key on the nesting path of that very target. A target that is
not mapped should be taken for one without a key. It is, unless a class of the same simple name is
mapped in another package (`StandsInFor`): then the finder binds the key of that class instead
(`finder_binds_key_of_target`).
-/

namespace EntityScaffold

open Java (TypeName)
open Mapping (Entity ManyToOne Mapped Placed Resource)
open Text (NameSet Occurs)

namespace Mapping

/-- The key by which a finder should look for a mapped entity: the simple key of the nearest entity
on its nesting path that has one, or the one assumed where there is none. -/
def Placed.nearestKey (p : Placed) : KeyRef :=
  ((p.path.findSome? (·.simpleKey?)).map .ofKey).getD .fallback

/-- A mapped entity that has the simple name of a type, but is another type. -/
structure StandsInFor (rs : List Resource) (t : TypeName) (p : Placed) : Prop where
  mapped : Mapped rs p
  name_eq : p.entity.className = t.simple
  type_ne : p.entity.type ≠ t

end Mapping

namespace Hierarchy

variable {rs : List Resource} {h : Hierarchy}

section Accepted

variable (hrs : ofResources rs = .ok h)

include hrs

theorem finderKey_of_type_eq {t : TypeName} {p : Placed} (hp : Mapped rs p)
    (htype : p.entity.type = t) : h.finderKey t.simple = p.nearestKey := by
  rw [← htype]
  exact finderKey_of_mapped hrs hp

theorem finderKey_of_standsInFor {t : TypeName} {p : Placed} (hp : Mapping.StandsInFor rs t p) :
    h.finderKey t.simple = p.nearestKey := by
  rw [← hp.name_eq]
  exact finderKey_of_mapped hrs hp.mapped

theorem finderKey_of_unmapped {t : TypeName} (hunmapped : ∀ p, Mapped rs p → p.entity.type ≠ t)
    (hnone : ∀ p, ¬ Mapping.StandsInFor rs t p) : h.finderKey t.simple = .fallback := by
  refine finderKey_of_not_mem fun hname => ?_
  obtain ⟨p, hp, hsimple⟩ := (mem_names_iff hrs).mp hname
  exact hnone p ⟨hp, hsimple, hunmapped p hp⟩

/-- For a type that is not mapped the fallback is found exactly if it is the key of whatever stands
in for the type. -/
theorem finderKey_eq_fallback_iff {t : TypeName}
    (hunmapped : ∀ p, Mapped rs p → p.entity.type ≠ t) :
    h.finderKey t.simple = .fallback ↔
      ∀ p, Mapping.StandsInFor rs t p → p.nearestKey = .fallback := by
  constructor
  · intro hkey p hp
    rw [← finderKey_of_standsInFor hrs hp, hkey]
  · intro hall
    by_cases hstands : ∃ p, Mapping.StandsInFor rs t p
    · obtain ⟨p, hp⟩ := hstands
      rw [finderKey_of_standsInFor hrs hp, hall p hp]
    · exact finderKey_of_unmapped hrs hunmapped fun p hp => hstands ⟨p, hp⟩

end Accepted

end Hierarchy

namespace Scaffold

variable {rs : List Resource} {h : Hierarchy}

/-- The finder for an association binds a parameter of the type of the key, which is imported if it
lives in a package, and asks for the property of the key. -/
structure FinderBinds (s : Scaffold) (header? : Option String) (association : ManyToOne)
    (key : KeyRef) : Prop where
  text_eq : (s.finder association).render =
    finderText s.className association.name key.type.simple key.name
  occurs : Occurs (finderText s.className association.name key.type.simple key.name)
    (s.artifact header? .accessBase).contents
  imported : ∀ name, key.type.import? = some name → name ∈ (s.sourceFile .accessBase).imports.names

theorem finderBinds_finderKey (s : Scaffold) (header? : Option String) {association : ManyToOne}
    (hassociation : association ∈ s.entity.columnManyToOnes) :
    s.FinderBinds header? association (s.hierarchy.finderKey association.target.simple) := by
  have htext := s.render_finderFor association (s.hierarchy.finderKey association.target.simple)
  refine ⟨htext, ?_, fun name hname => ?_⟩
  · rw [← htext]
    exact s.occurs_finder header? hassociation
  · refine (mem_imports_iff_mentioned .accessBase).mpr ⟨_, ?_, hname⟩
    exact mem_mentioned_accessBaseClass.mpr (.inr ⟨association, hassociation, by simp⟩)

/-- Every finder binds one key. If the target is mapped, in whatever document, it is the one of the
nearest entity on the nesting path of the target. If the target is not mapped, it is the one assumed
where none is known, exactly if no class with another key stands in for the target; a class that
does has its key taken. -/
theorem finder_binds_key_of_target (hrs : Hierarchy.ofResources rs = .ok h) (q : Placed)
    (shown : NameSet) (header? : Option String) {association : ManyToOne}
    (hassociation : association ∈ q.entity.columnManyToOnes) :
    ∃ key, (ofPlaced h shown q).FinderBinds header? association key ∧
      (∀ p, Mapped rs p → p.entity.type = association.target → key = p.nearestKey) ∧
      ((∀ p, Mapped rs p → p.entity.type ≠ association.target) →
        (key = .fallback ↔
          ∀ p, Mapping.StandsInFor rs association.target p → p.nearestKey = .fallback) ∧
        ∀ p, Mapping.StandsInFor rs association.target p → key = p.nearestKey) := by
  have hbinds := (ofPlaced h shown q).finderBinds_finderKey header? hassociation
  refine ⟨h.finderKey association.target.simple, hbinds, fun p hp htype => ?_,
    fun hunmapped => ⟨?_, fun p hp => ?_⟩⟩
  · exact Hierarchy.finderKey_of_type_eq hrs hp htype
  · exact Hierarchy.finderKey_eq_fallback_iff hrs hunmapped
  · exact Hierarchy.finderKey_of_standsInFor hrs hp

/-- The finder of `Room` for a target of the second document, with a key from around the target. -/
theorem finder_binds_key_of_target_school :
    let files := ofPlaced schoolHierarchy .empty ⟨room, []⟩
    let tenant : ManyToOne := ⟨"Tenant", ⟨"school.Student"⟩, .column "tenant"⟩
    Hierarchy.ofResources schoolResources = .ok schoolHierarchy ∧
      tenant ∈ room.columnManyToOnes ∧
      Mapped schoolResources ⟨student, [person]⟩ ∧ student.type = tenant.target ∧
      files.FinderBinds none tenant ⟨⟨"java.math.BigInteger"⟩, "Number"⟩ := by
  intro files tenant
  have hresources : Hierarchy.ofResources schoolResources = .ok schoolHierarchy := rfl
  have htenant : tenant ∈ room.columnManyToOnes := List.mem_cons_self
  have hkey : (⟨student, [person]⟩ : Placed).nearestKey =
      ⟨⟨"java.math.BigInteger"⟩, "Number"⟩ := rfl
  obtain ⟨key, hbinds, hmapped, -⟩ :=
    finder_binds_key_of_target hresources ⟨room, []⟩ .empty none htenant
  rw [hmapped ⟨student, [person]⟩ mapped_student rfl, hkey] at hbinds
  exact ⟨hresources, htenant, mapped_student, rfl, hbinds⟩

/-! ### A class of the same name in another package -/

/-- An association with a hall of the city, of which no document tells. -/
def cityHall : ManyToOne :=
  ⟨"Hall", ⟨"city.Hall"⟩, .column "hall"⟩

/-- A hall of the school, which has a key. -/
def schoolHall : Entity :=
  { person with
    name := "Hall", type := ⟨"school.Hall"⟩,
    key? := some (.simple ⟨"Code", ⟨"String"⟩, "code"⟩), derived := [] }

/-- A document in which a room has an association with the one hall, and the other one is mapped. -/
def hallResources : List Resource :=
  [⟨"Room.hbm.xml", some "school", [{ room with manyToOnes := [cityHall] }, schoolHall]⟩]

/-- The hall of the city has no key in the documents, but the finder takes the one of the other
hall. -/
theorem finder_binds_key_of_stand_in :
    ∃ h, Hierarchy.ofResources hallResources = .ok h ∧
      (∀ p, Mapped hallResources p → p.entity.type ≠ cityHall.target) ∧
      let files := ofPlaced h .empty ⟨{ room with manyToOnes := [cityHall] }, []⟩
      cityHall ∈ files.entity.columnManyToOnes ∧
        Occurs (finderText "Room" "Hall" "String" "Code")
          (files.artifact none .accessBase).contents ∧
        (files.finder cityHall).render ≠ finderText "Room" "Hall" "Long" "UniqueId" := by
  have hresources : Hierarchy.ofResources hallResources =
      .ok ⟨[⟨"Hall", none, some ⟨⟨"String"⟩, "Code"⟩⟩, ⟨"Room", none, none⟩], by decide⟩ := rfl
  have htypes : ∀ p ∈ hallResources.flatMap (·.placed), p.entity.type ≠ cityHall.target := by decide
  refine ⟨_, hresources, fun p hp => htypes p (Mapping.mem_placed_iff.mpr hp), ?_⟩
  intro files
  have hhall : cityHall ∈ files.entity.columnManyToOnes := List.mem_cons_self
  have hkey : files.hierarchy.finderKey cityHall.target.simple = ⟨⟨"String"⟩, "Code"⟩ := by decide
  have hbinds := files.finderBinds_finderKey none hhall
  have hsimple : (⟨"String"⟩ : TypeName).simple = "String" := by decide
  have hname : files.className = "Room" := by decide
  rw [hkey] at hbinds
  obtain ⟨htext, hoccurs, -⟩ := hbinds
  rw [hname, hsimple] at htext hoccurs
  refine ⟨hhall, hoccurs, ?_⟩
  rw [htext]
  decide

end Scaffold

end EntityScaffold
