import Mathlib.Data.List.Induction
import Mathlib.Data.List.Nodup
import EntityScaffold.Proofs.HierarchyKeys

/-!
# Which documents are accepted

The hierarchy of a list of documents exists exactly if the class names of all entities are distinct
(`ofResources_accepts_exactly`). If they are not, the failure is about the first entity whose name
came before: a cycle if one of the entities around it has the name, and a duplicate otherwise. If
they are, the hierarchy tells of every entity what the documents say.

The cycle check looks at the enclosing entities, the duplicate check at all that came before. The
walk lists enclosing entities first (`above_listed`), so a cycle is a repetition as well, and no
entity before the first repetition fails.
-/

namespace EntityScaffold

namespace Mapping

/-! ## The order of the documents -/

mutual

/-- An entity and all entities derived from it, each before the ones derived from it. -/
def Entity.preorder : Entity → List Entity
  | .mk kind name type isAbstract key? properties manyToOnes sets derived =>
    .mk kind name type isAbstract key? properties manyToOnes sets derived :: preorderAll derived

/-- Several entities and all entities derived from them. -/
def preorderAll : List Entity → List Entity
  | [] => []
  | e :: es => e.preorder ++ preorderAll es

end

mutual

theorem map_entity_placed (above : List Entity) :
    ∀ e : Entity, (e.placed above).map (·.entity) = e.preorder
  | .mk kind name type isAbstract key? properties manyToOnes sets derived => by
    rw [placed_eq, Entity.preorder, List.map_cons, map_entity_placedAll]

/-- Where entities are placed does not matter for their order. -/
theorem map_entity_placedAll (above : List Entity) :
    ∀ es : List Entity, (placedAll above es).map (·.entity) = preorderAll es
  | [] => by rw [placedAll, preorderAll, List.map_nil]
  | e :: es => by
    rw [placedAll, preorderAll, List.map_append, map_entity_placed, map_entity_placedAll]

end

/-- All entities of the documents, in the order in which they are written. -/
def entities (rs : List Resource) : List Entity :=
  rs.flatMap fun r => preorderAll r.entities

theorem map_entity_flatMap_placed (rs : List Resource) :
    (rs.flatMap (·.placed)).map (·.entity) = entities rs := by
  unfold entities
  rw [List.map_flatMap]
  simp only [Resource.placed, map_entity_placedAll]

/-! ## Enclosing entities -/

theorem ParentsListed.parentListed_of_mem {ps : List Placed} (h : ParentsListed ps) {p : Placed}
    (hp : p ∈ ps) : ParentListed p.above ps := by
  induction ps with
  | nil => exact absurd hp List.not_mem_nil
  | cons q earlier ih =>
    obtain ⟨hq, hearlier⟩ := h
    rcases List.mem_cons.mp hp with rfl | hmem
    · exact hq.append [p]
    · exact (ih hearlier hmem).append [q]

/-- All entities around an entity were listed before it, not only the nearest one. -/
theorem ParentsListed.above_listed {earlier : List Placed} (h : ParentsListed earlier)
    {above : List Entity} (habove : ParentListed above earlier) {e : Entity} (he : e ∈ above) :
    ∃ q ∈ earlier, q.entity = e := by
  induction above with
  | nil => exact absurd he List.not_mem_nil
  | cons parent rest ih =>
    have hparent : ⟨parent, rest⟩ ∈ earlier := habove parent rest rfl
    rcases List.mem_cons.mp he with rfl | hrest
    · exact ⟨_, hparent, rfl⟩
    · exact ih (h.parentListed_of_mem hparent) hrest

end Mapping

/-! ## The first repetition -/

theorem nodup_map_append_singleton {α β : Type} {f : α → β} {l : List α} {a : α} :
    ((l ++ [a]).map f).Nodup ↔ f a ∉ l.map f ∧ (l.map f).Nodup := by
  rw [List.map_append, List.map_singleton, ← List.concat_eq_append]
  exact List.nodup_concat _ _

/-- A list in which `f` repeats a value has a first member at which it does. -/
theorem exists_first_repetition {α β : Type} {f : α → β} {l : List α} (h : ¬ (l.map f).Nodup) :
    ∃ before a after, l = before ++ a :: after ∧ (before.map f).Nodup ∧ f a ∈ before.map f := by
  induction l using List.reverseRecOn with
  | nil => exact absurd List.nodup_nil h
  | append_singleton l a ih =>
    by_cases hl : (l.map f).Nodup
    · have ha : f a ∈ l.map f := by
        apply Classical.byContradiction
        intro hfresh
        exact h (nodup_map_append_singleton.mpr ⟨hfresh, hl⟩)
      exact ⟨l, a, [], rfl, hl, ha⟩
    · obtain ⟨before, b, after, rfl, hbefore, hb⟩ := ih hl
      exact ⟨before, b, after ++ [a], by simp, hbefore, hb⟩

/-- The entity `p` is the first one in the order of the documents whose class name came before. -/
def Mapping.FirstRepetition (rs : List Mapping.Resource) (p : Mapping.Placed) : Prop :=
  ∃ before after, rs.flatMap (·.placed) = before ++ p :: after ∧
    (before.map (·.entity.className)).Nodup ∧
    p.entity.className ∈ before.map (·.entity.className)

namespace Hierarchy

open Mapping (Entity FirstRepetition Mapped ParentListed ParentsListed Placed Resource entities)

/-- What is wrong with an entity whose class name came before: it is nested in an entity of its own
name, with the class names from the outermost entity down to itself as the chain, or else it is
mapped twice. -/
def repetitionFailure (p : Placed) : Failure :=
  if p.entity.className ∈ p.above.map (·.className) then
    .inheritanceCycle p.entity.className
      ((p.above.map (·.className)).reverse ++ [p.entity.className])
  else .duplicateEntity p.entity.className

/-- An entity is added unless its name is there already. The first check can only fail where the
second one would, provided that the entities around `p` are there. -/
theorem add_eq {h : Hierarchy} {p : Placed}
    (habove : ∀ name ∈ p.above.map (·.className), name ∈ h.names) :
    (p.entity.className ∉ h.names → ∃ next, h.add p = .ok next) ∧
      (p.entity.className ∈ h.names → h.add p = .error (repetitionFailure p)) := by
  have hchain : p.chain = (p.above.map (·.className)).reverse ++ [p.entity.className] := by
    simp [Placed.chain, Placed.path]
  constructor
  · intro hfresh
    have houter : p.entity.className ∉ p.above.map (·.className) := fun h => hfresh (habove _ h)
    refine ⟨⟨.ofPlaced p :: h.facts, List.nodup_cons.mpr ⟨hfresh, h.nodup_names⟩⟩, ?_⟩
    exact add_eq_ok_iff.mpr ⟨houter, hfresh, rfl⟩
  · intro hknown
    have hnames : p.entity.className ∈ h.facts.map (·.name) := hknown
    unfold add repetitionFailure
    by_cases hcycle : p.entity.className ∈ p.above.map (·.className)
    · simp only [if_pos hcycle, hchain]
    · simp only [if_neg hcycle, dif_pos hnames]

theorem names_of_ofPlaced {h : Hierarchy} {ps : List Placed} (hps : ofPlaced ps = .ok h) :
    h.names = ps.reverse.map (·.entity.className) := by
  rw [names, facts_of_ofPlaced hps, List.map_map]
  rfl

theorem mem_names_iff {rs : List Resource} {h : Hierarchy} (hrs : ofResources rs = .ok h)
    {name : String} :
    name ∈ h.names ↔ ∃ p, Mapped rs p ∧ p.entity.className = name := by
  rw [names_of_ofPlaced hrs, List.mem_map]
  simp only [List.mem_reverse, Mapping.mem_placed_iff]

/-- When a further entity comes, the names of the entities around it are there. -/
theorem above_mem_names {h : Hierarchy} {ps : List Placed} (hps : ofPlaced ps = .ok h) {p : Placed}
    (hlisted : ParentsListed (p :: ps.reverse)) :
    ∀ name ∈ p.above.map (·.className), name ∈ h.names := by
  obtain ⟨hparent, hearlier⟩ := hlisted
  intro name hname
  obtain ⟨e, he, rfl⟩ := List.mem_map.mp hname
  obtain ⟨q, hq, rfl⟩ := hearlier.above_listed hparent he
  rw [names_of_ofPlaced hps]
  exact List.mem_map.mpr ⟨q, hq, rfl⟩

/-- The fold over further entities goes on from what the ones before it gave. -/
theorem ofPlaced_append_cons {ps qs : List Placed} {p : Placed} {h : Hierarchy}
    (hps : ofPlaced ps = .ok h) :
    ofPlaced (ps ++ p :: qs) = (h.add p).bind fun next => qs.foldlM add next := by
  unfold ofPlaced at hps ⊢
  rw [List.foldlM_append, hps]
  rfl

/-- Entities with distinct names are accepted. The induction is on the last entity, because the
fold goes on from what all entities before it gave. -/
theorem ofPlaced_of_nodup {ps : List Placed} (hlisted : ParentsListed ps.reverse)
    (hnodup : (ps.map (·.entity.className)).Nodup) : ∃ h, ofPlaced ps = .ok h := by
  induction ps using List.reverseRecOn with
  | nil => exact ⟨empty, rfl⟩
  | append_singleton ps p ih =>
    rw [List.reverse_append, List.reverse_singleton, List.singleton_append] at hlisted
    obtain ⟨hfresh, hbefore⟩ := nodup_map_append_singleton.mp hnodup
    obtain ⟨h, hps⟩ := ih hlisted.2 hbefore
    have hunknown : p.entity.className ∉ h.names := by
      rw [names_of_ofPlaced hps, List.map_reverse, List.mem_reverse]
      exact hfresh
    obtain ⟨next, hnext⟩ := (add_eq (above_mem_names hps hlisted)).1 hunknown
    refine ⟨next, ?_⟩
    rw [ofPlaced_append_cons hps, hnext]
    rfl

/-- The first repetition ends it, whatever follows. -/
theorem ofPlaced_of_repetition {before after : List Placed} {p : Placed}
    (hlisted : ParentsListed (before ++ p :: after).reverse)
    (hnodup : (before.map (·.entity.className)).Nodup)
    (hrepeated : p.entity.className ∈ before.map (·.entity.className)) :
    ofPlaced (before ++ p :: after) = .error (repetitionFailure p) := by
  have hreverse : (before ++ p :: after).reverse = after.reverse ++ (p :: before.reverse) := by
    simp
  rw [hreverse] at hlisted
  have hpart : ParentsListed (p :: before.reverse) := hlisted.of_append
  obtain ⟨h, hbefore⟩ := ofPlaced_of_nodup hpart.2 hnodup
  have hknown : p.entity.className ∈ h.names := by
    rw [names_of_ofPlaced hbefore, List.map_reverse, List.mem_reverse]
    exact hrepeated
  have hadd := (add_eq (above_mem_names hbefore hpart)).2 hknown
  rw [ofPlaced_append_cons hbefore, hadd]
  rfl

/-! ## What an accepted hierarchy tells -/

/-- The hierarchy tells of the entities what the documents say, and nothing else. -/
structure Describes (h : Hierarchy) (rs : List Resource) : Prop where
  size_eq : h.size = (rs.flatMap (·.placed)).length
  parent?_eq : ∀ p, Mapped rs p →
    h.parent? p.entity.className = p.above.head?.map (·.className)
  key?_eq : ∀ p, Mapped rs p → h.key? p.entity.className = p.entity.simpleKey?.map .ofKey
  unknown : ∀ name, name ∉ (rs.flatMap (·.placed)).map (·.entity.className) →
    h.parent? name = none ∧ h.key? name = none

theorem find?_of_mem {ps : List Placed} (hnodup : (ps.map (·.entity.className)).Nodup) {p : Placed}
    (hp : p ∈ ps) :
    (ps.map EntityFact.ofPlaced).find? (·.name == p.entity.className) =
      some (.ofPlaced p) := by
  induction ps with
  | nil => exact absurd hp List.not_mem_nil
  | cons q ps ih =>
    obtain ⟨hfresh, hdistinct⟩ := List.nodup_cons.mp hnodup
    rw [List.map_cons]
    rcases List.mem_cons.mp hp with rfl | hmem
    · exact List.find?_cons_of_pos (beq_self_eq_true _)
    · have hne : q.entity.className ≠ p.entity.className := by
        intro heq
        exact hfresh (List.mem_map.mpr ⟨p, hmem, heq.symm⟩)
      rw [List.find?_cons_of_neg (by simpa [EntityFact.ofPlaced] using hne)]
      exact ih hdistinct hmem

theorem describes_of_ofResources {rs : List Resource} {h : Hierarchy}
    (hrs : ofResources rs = .ok h) : h.Describes rs := by
  have hfacts := facts_of_ofPlaced hrs
  have hnodup : ((rs.flatMap (·.placed)).reverse.map (·.entity.className)).Nodup :=
    nodup_reverse_classNames hrs
  have hfind (p : Placed) (hp : Mapped rs p) :
      h.find? p.entity.className = some (.ofPlaced p) := by
    have hmem : p ∈ (rs.flatMap (·.placed)).reverse :=
      List.mem_reverse.mpr (Mapping.mem_placed_iff.mpr hp)
    rw [find?, hfacts]
    exact find?_of_mem hnodup hmem
  refine ⟨?_, fun p hp => ?_, fun p hp => ?_, fun name hname => ?_⟩
  · rw [size, hfacts, List.length_map, List.length_reverse]
  · rw [parent?, hfind p hp]
    rfl
  · rw [key?, hfind p hp]
    rfl
  · have hnone : h.find? name = none := by
      rw [find?, hfacts, List.find?_eq_none]
      intro fact hfact hfound
      obtain ⟨p, hp, rfl⟩ := List.mem_map.mp hfact
      apply hname
      have hname : p.entity.className = name := by simpa [EntityFact.ofPlaced] using hfound
      exact List.mem_map.mpr ⟨p, List.mem_reverse.mp hp, hname⟩
    rw [parent?, key?, hnone]
    exact ⟨rfl, rfl⟩

/-! ## Acceptance -/

theorem nodup_iff_exists_ok (rs : List Resource) :
    (∃ h, ofResources rs = .ok h) ↔ ((rs.flatMap (·.placed)).map (·.entity.className)).Nodup := by
  constructor
  · rintro ⟨h, hrs⟩
    exact nodup_classNames hrs
  · intro hnodup
    exact ofPlaced_of_nodup (Mapping.parentsListed_placed rs) hnodup

theorem ofResources_of_firstRepetition {rs : List Resource} {p : Placed}
    (h : FirstRepetition rs p) : ofResources rs = .error (repetitionFailure p) := by
  obtain ⟨before, after, hwalk, hnodup, hrepeated⟩ := h
  have hlisted := Mapping.parentsListed_placed rs
  rw [hwalk] at hlisted
  rw [ofResources, hwalk]
  exact ofPlaced_of_repetition hlisted hnodup hrepeated

/-- The walk over the documents lists every mapped entity with the entities around it, in the order
in which they are written. The documents are accepted exactly if all class names on it are distinct.
If not, the failure is about the first entity whose name came before. An accepted hierarchy tells of
every entity the one that it is derived from, and its own simple key. -/
theorem ofResources_accepts_exactly (rs : List Resource) :
    let walk := rs.flatMap (·.placed)
    walk.map (·.entity) = entities rs ∧
    (∀ p, p ∈ walk ↔ Mapped rs p) ∧
    ((∃ h, ofResources rs = .ok h) ↔ (walk.map (·.entity.className)).Nodup) ∧
    (∀ failure, ofResources rs = .error failure ↔
      ∃ p, FirstRepetition rs p ∧ Mapped rs p ∧ failure = repetitionFailure p) ∧
    (∀ h, ofResources rs = .ok h → h.Describes rs) := by
  intro walk
  refine ⟨Mapping.map_entity_flatMap_placed rs, fun _ => Mapping.mem_placed_iff,
    nodup_iff_exists_ok rs, fun failure => ⟨fun hfailure => ?_, ?_⟩,
    fun h hrs => describes_of_ofResources hrs⟩
  · have hrepeats : ¬ (walk.map (·.entity.className)).Nodup := by
      rw [← nodup_iff_exists_ok]
      rintro ⟨h, hrs⟩
      rw [hrs] at hfailure
      cases hfailure
    obtain ⟨before, p, after, hwalk, hnodup, hrepeated⟩ := exists_first_repetition hrepeats
    have hfirst : FirstRepetition rs p := ⟨before, after, hwalk, hnodup, hrepeated⟩
    have hmapped : Mapped rs p := by
      have hp : p ∈ walk := hwalk ▸ List.mem_append_right _ List.mem_cons_self
      exact Mapping.mem_placed_iff.mp hp
    rw [ofResources_of_firstRepetition hfirst] at hfailure
    exact ⟨p, hfirst, hmapped, (Except.error.inj hfailure).symm⟩
  · rintro ⟨p, hfirst, -, rfl⟩
    exact ofResources_of_firstRepetition hfirst

end Hierarchy

end EntityScaffold
