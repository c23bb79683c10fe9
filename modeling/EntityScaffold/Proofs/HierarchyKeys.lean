import Mathlib.Data.List.Nodup
import EntityScaffold.Hierarchy
import EntityScaffold.Proofs.Nesting

/-!
# Keys in the hierarchy

A hierarchy is a flat list of facts by class name, while an entity stands in a nesting. A hierarchy
that was built from documents holds one fact for each entity, the latest first
(`facts_of_ofPlaced`), under distinct names. The search outwards from a name therefore retraces the
nesting path of the entity of that name (`nearestKey?_of_mem`), and a finder looks for it by the key
of the nearest entity on that path (`finderKey_of_mapped`), wherever the entity is mapped.
-/

namespace EntityScaffold

open Mapping (Entity Mapped ParentListed ParentsListed Placed Resource SimpleKey)

namespace Hierarchy

/-! ## The facts of a hierarchy -/

/-- An entity is added exactly if its name is new; its fact comes first. -/
theorem add_eq_ok_iff {h h' : Hierarchy} {p : Placed} :
    h.add p = .ok h' ↔
      p.entity.className ∉ p.above.map (·.className) ∧ p.entity.className ∉ h.names ∧
        h'.facts = .ofPlaced p :: h.facts := by
  unfold add names
  by_cases hcycle : p.entity.className ∈ p.above.map (·.className)
  · simp [hcycle]
  · by_cases hknown : p.entity.className ∈ h.facts.map (·.name)
    · simp [hcycle, hknown]
    · simp only [hcycle, hknown, ↓reduceIte, ↓reduceDIte, Except.ok.injEq, not_false_eq_true,
        true_and]
      constructor
      · rintro rfl
        rfl
      · intro hfacts
        cases h'
        subst hfacts
        rfl

theorem facts_of_foldlM {h h' : Hierarchy} {ps : List Placed}
    (hrun : ps.foldlM add h = .ok h') :
    h'.facts = (ps.map EntityFact.ofPlaced).reverse ++ h.facts := by
  induction ps generalizing h with
  | nil =>
    cases hrun
    rfl
  | cons p ps ih =>
    rw [List.foldlM_cons] at hrun
    cases hadd : h.add p with
    | error failure => simp [hadd, bind, Except.bind] at hrun
    | ok next =>
      rw [hadd] at hrun
      rw [ih hrun, (add_eq_ok_iff.mp hadd).2.2]
      simp

/-- A hierarchy of entities holds the fact of each of them, the latest first. -/
theorem facts_of_ofPlaced {h : Hierarchy} {ps : List Placed} (hps : ofPlaced ps = .ok h) :
    h.facts = ps.reverse.map EntityFact.ofPlaced := by
  rw [facts_of_foldlM hps]
  simp [empty]

theorem nodup_reverse_classNames {h : Hierarchy} {ps : List Placed} (hps : ofPlaced ps = .ok h) :
    (ps.reverse.map (·.entity.className)).Nodup := by
  have hnames := h.nodup_names
  rw [facts_of_ofPlaced hps, List.map_map] at hnames
  exact hnames

theorem nodup_classNames {h : Hierarchy} {ps : List Placed} (hps : ofPlaced ps = .ok h) :
    (ps.map (·.entity.className)).Nodup := by
  have hnames := nodup_reverse_classNames hps
  rw [List.map_reverse] at hnames
  exact (List.pairwise_reverse.mp hnames).imp Ne.symm

/-! ## The search outwards -/

/-- From the name of a listed entity the search comes to the key of the nearest entity on its
nesting path that has one. -/
theorem nearestKey?_of_mem {ps : List Placed} (hlisted : ParentsListed ps)
    (hnodup : (ps.map (·.entity.className)).Nodup) {p : Placed} (hp : p ∈ ps) :
    nearestKey? p.entity.className (ps.map EntityFact.ofPlaced) = p.key?.map .ofKey := by
  induction ps generalizing p with
  | nil => exact absurd hp List.not_mem_nil
  | cons q earlier ih =>
    obtain ⟨hq, hearlier⟩ := hlisted
    obtain ⟨hfresh, hdistinct⟩ := List.nodup_cons.mp hnodup
    rw [List.map_cons, nearestKey?]
    rcases List.mem_cons.mp hp with rfl | hmem
    · have hname : (EntityFact.ofPlaced p).name = p.entity.className := rfl
      rw [if_pos hname]
      obtain ⟨e, above⟩ := p
      simp only [EntityFact.ofPlaced, Placed.parent?]
      cases hkey : e.simpleKey? with
      | some key => rw [Placed.key?_of_own hkey]; rfl
      | none =>
        cases above with
        | nil => rw [Placed.key?_of_root hkey]; rfl
        | cons parent rest =>
          -- the search goes on behind `p`, and there is the entity that `p` is derived from
          have hparent : ⟨parent, rest⟩ ∈ earlier := hq parent rest rfl
          rw [Placed.key?_of_inherited hkey]
          exact ih hearlier hdistinct hparent
    · have hname : (EntityFact.ofPlaced q).name ≠ p.entity.className := by
        intro heq
        exact hfresh (List.mem_map.mpr ⟨p, hmem, heq.symm⟩)
      rw [if_neg hname]
      exact ih hearlier hdistinct hmem

/-- The search for a name that no entity has finds nothing. -/
theorem nearestKey?_of_not_mem {name : String} {facts : List EntityFact}
    (h : name ∉ facts.map (·.name)) : nearestKey? name facts = none := by
  induction facts with
  | nil => rfl
  | cons fact older ih =>
    obtain ⟨hfact, holder⟩ := not_or.mp (mt List.mem_cons.mpr h)
    rw [nearestKey?, if_neg (Ne.symm hfact)]
    exact ih holder

theorem finderKey_of_not_mem {h : Hierarchy} {name : String} (hname : name ∉ h.names) :
    h.finderKey name = .fallback := by
  rw [finderKey, nearestKey?_of_not_mem hname, Option.getD_none]

/-- The key by which finders look for a mapped entity is the one of the nearest entity on its
nesting path. -/
theorem finderKey_of_mapped {rs : List Resource} {h : Hierarchy} (hrs : ofResources rs = .ok h)
    {p : Placed} (hp : Mapped rs p) :
    h.finderKey p.entity.className = (p.key?.map .ofKey).getD .fallback := by
  have hmem : p ∈ (rs.flatMap (·.placed)).reverse :=
    List.mem_reverse.mpr (Mapping.mem_placed_iff.mpr hp)
  have hnodup : ((rs.flatMap (·.placed)).reverse.map (·.entity.className)).Nodup :=
    nodup_reverse_classNames hrs
  unfold finderKey
  rw [facts_of_ofPlaced hrs,
    nearestKey?_of_mem (Mapping.parentsListed_placed rs) hnodup hmem]

end Hierarchy

/-- Documents that are accepted map only one entity of a name. -/
theorem Mapping.Mapped.unique {rs : List Resource} {h : Hierarchy} {p q : Placed}
    (hrs : Hierarchy.ofResources rs = .ok h) (hp : Mapped rs p) (hq : Mapped rs q)
    (hname : p.entity.className = q.entity.className) : p = q := by
  have hclasses := Hierarchy.nodup_classNames hrs
  rw [← Mapping.mem_placed_iff] at hp hq
  exact List.inj_on_of_nodup_map hclasses hp hq hname

end EntityScaffold
