import EntityScaffold.Proofs.Acceptance
import EntityScaffold.Proofs.KeyAgreement

/-!
# The walk of a finder to its key

A finder asks the hierarchy for the key of its target: it looks for a key under a name, and if there
is none it goes on with the name of the class next around, until there is none either. Nothing in
the names themselves bounds this walk (`Walk`). It ends because the hierarchy was built from
documents: every step leads to the class that encloses the class at hand, and no class is enclosed
by one of its own name. So the walk follows the nesting path of its target, comes to no name twice
and ends at the nearest key, or at the end of the path (`finder_walk_ends`).
-/

namespace EntityScaffold

open Mapping (Entity Mapped Placed Resource SimpleKey)

/-- Whatever encloses a mapped entity is mapped as well, and has less around it. -/
theorem Mapping.Mapped.exists_of_mem_above {rs : List Resource} {e outer : Entity}
    {above : List Entity} (hp : Mapped rs ⟨e, above⟩) (hmem : outer ∈ above) :
    ∃ further, Mapped rs ⟨outer, further⟩ ∧ further.length < above.length := by
  induction above generalizing e with
  | nil => exact absurd hmem List.not_mem_nil
  | cons parent rest ih =>
    rcases List.mem_cons.mp hmem with rfl | hrest
    · exact ⟨rest, hp.outer, Nat.lt_succ_self _⟩
    · obtain ⟨further, hmapped, hlength⟩ := ih hp.outer hrest
      exact ⟨further, hmapped, Nat.lt_succ_of_lt hlength⟩

namespace Hierarchy

/-- The walk from a name outwards comes to the names listed, in this order, and ends with a key. -/
inductive Walk (h : Hierarchy) : String → List String → KeyRef → Prop
  | found {name : String} {key : KeyRef} (hkey : h.key? name = some key) : Walk h name [name] key
  | onwards {name parent : String} {visited : List String} {key : KeyRef}
      (hkey : h.key? name = none) (hparent : h.parent? name = some parent)
      (hrest : Walk h parent visited key) : Walk h name (name :: visited) key
  | exhausted {name : String} (hkey : h.key? name = none) (hparent : h.parent? name = none) :
      Walk h name [name] .fallback

theorem Walk.functional {h : Hierarchy} {name : String} {visited visited' : List String}
    {key key' : KeyRef} (hw : Walk h name visited key) (hw' : Walk h name visited' key') :
    visited' = visited ∧ key' = key := by
  induction hw generalizing visited' key' with
  | found hkey =>
    cases hw' with
    | found hkey' => exact ⟨rfl, Option.some.inj (hkey'.symm.trans hkey)⟩
    | onwards hkey' _ _ => exact absurd (hkey.symm.trans hkey') nofun
    | exhausted hkey' _ => exact absurd (hkey.symm.trans hkey') nofun
  | onwards hkey hparent _ ih =>
    cases hw' with
    | found hkey' => exact absurd (hkey.symm.trans hkey') nofun
    | onwards _ hparent' hrest' =>
      cases hparent.symm.trans hparent'
      obtain ⟨rfl, rfl⟩ := ih hrest'
      exact ⟨rfl, rfl⟩
    | exhausted _ hparent' => exact absurd (hparent.symm.trans hparent') nofun
  | exhausted hkey hparent =>
    cases hw' with
    | found hkey' => exact absurd (hkey.symm.trans hkey') nofun
    | onwards _ hparent' _ => exact absurd (hparent.symm.trans hparent') nofun
    | exhausted _ _ => exact ⟨rfl, rfl⟩

section Accepted

variable {rs : List Resource} {h : Hierarchy} (hrs : ofResources rs = .ok h)

include hrs

/-- No class is nested in a class of its own name. The one further out stands in fewer classes, so
the two would be different entities of one name. -/
theorem nodup_path {p : Placed} (hp : Mapped rs p) : (p.path.map (·.className)).Nodup := by
  obtain ⟨e, above⟩ := p
  induction above generalizing e with
  | nil => exact List.nodup_singleton _
  | cons parent rest ih =>
    refine List.nodup_cons.mpr ⟨fun hname => ?_, ih parent hp.outer⟩
    obtain ⟨outer, hmem, hsame⟩ := List.mem_map.mp hname
    obtain ⟨further, hmapped, hlength⟩ := hp.exists_of_mem_above hmem
    have hequal : further = parent :: rest := congrArg Placed.above (hmapped.unique hrs hp hsame)
    rw [hequal] at hlength
    exact Nat.lt_irrefl _ hlength

theorem walk_of_own {e : Entity} {above : List Entity} {key : SimpleKey}
    (hp : Mapped rs ⟨e, above⟩) (hkey : e.simpleKey? = some key) :
    h.Walk e.className [e.className] (.ofKey key) := by
  have hown : h.key? e.className = e.simpleKey?.map .ofKey :=
    (describes_of_ofResources hrs).key?_eq ⟨e, above⟩ hp
  rw [hkey] at hown
  exact .found hown

/-- From the name of a mapped entity the walk follows the nesting path of the entity, as far as to
the nearest key. -/
theorem exists_walk_of_mapped {p : Placed} (hp : Mapped rs p) :
    ∃ visited, h.Walk p.entity.className visited ((p.key?.map .ofKey).getD .fallback) ∧
      visited <+: p.path.map (·.className) := by
  have hdescribes := describes_of_ofResources hrs
  obtain ⟨e, above⟩ := p
  induction above generalizing e with
  | nil =>
    refine ⟨[e.className], ?_, List.prefix_refl _⟩
    cases hkey : e.simpleKey? with
    | some key =>
      rw [Placed.key?_of_own hkey]
      exact walk_of_own hrs hp hkey
    | none =>
      have hparent : h.parent? e.className = none := hdescribes.parent?_eq ⟨e, []⟩ hp
      have hown : h.key? e.className = e.simpleKey?.map .ofKey := hdescribes.key?_eq ⟨e, []⟩ hp
      rw [hkey] at hown
      rw [Placed.key?_of_root hkey]
      exact .exhausted hown hparent
  | cons parent rest ih =>
    cases hkey : e.simpleKey? with
    | some key =>
      rw [Placed.key?_of_own hkey]
      exact ⟨[e.className], walk_of_own hrs hp hkey, ⟨_, rfl⟩⟩
    | none =>
      have hparent : h.parent? e.className = some parent.className :=
        hdescribes.parent?_eq ⟨e, parent :: rest⟩ hp
      have hown : h.key? e.className = e.simpleKey?.map .ofKey :=
        hdescribes.key?_eq ⟨e, parent :: rest⟩ hp
      rw [hkey] at hown
      -- one step of the walk is one step outwards on the nesting path
      obtain ⟨visited, hwalk, hwithin⟩ := ih parent hp.outer
      rw [Placed.key?_of_inherited hkey]
      exact ⟨e.className :: visited, .onwards hown hparent hwalk,
        List.cons_prefix_cons.mpr ⟨rfl, hwithin⟩⟩

theorem walk_of_unmapped {name : String}
    (hname : ∀ p, Mapped rs p → p.entity.className ≠ name) : h.Walk name [name] .fallback := by
  have hunlisted : name ∉ (rs.flatMap (·.placed)).map (·.entity.className) := by
    rw [List.mem_map]
    rintro ⟨p, hp, hclass⟩
    exact hname p (Mapping.mem_placed_iff.mp hp) hclass
  obtain ⟨hparent, hkey⟩ := (describes_of_ofResources hrs).unknown name hunlisted
  exact .exhausted hkey hparent

end Accepted

/-- The walk from any name ends, comes to no name twice, and gives the key that finders use. From
the name of a mapped class that is the simple key of the first class that has one among the class
itself, the class next around it, and so on; if there is none, or no class has the name, it is the
key assumed where none is known. -/
theorem finder_walk_ends {rs : List Resource} {h : Hierarchy} (hrs : ofResources rs = .ok h)
    (target : String) :
    ∃ visited, h.Walk target visited (h.finderKey target) ∧ visited.Nodup ∧
      (∀ visited' key, h.Walk target visited' key →
        visited' = visited ∧ key = h.finderKey target) ∧
      (∀ p, Mapped rs p → p.entity.className = target →
        visited <+: p.path.map (·.className) ∧
          h.finderKey target = ((p.path.findSome? (·.simpleKey?)).map .ofKey).getD .fallback) ∧
      ((∀ p, Mapped rs p → p.entity.className ≠ target) →
        visited = [target] ∧ h.finderKey target = .fallback) := by
  by_cases hmapped : ∃ p, Mapped rs p ∧ p.entity.className = target
  · obtain ⟨p, hp, rfl⟩ := hmapped
    have hkey := finderKey_of_mapped hrs hp
    obtain ⟨visited, hwalk, hwithin⟩ := exists_walk_of_mapped hrs hp
    rw [← hkey] at hwalk
    refine ⟨visited, hwalk, (nodup_path hrs hp).sublist hwithin.sublist,
      fun _ _ => hwalk.functional, fun q hq hname => ?_, fun hnone => absurd rfl (hnone p hp)⟩
    rw [hq.unique hrs hp hname]
    exact ⟨hwithin, hkey⟩
  · have hnone (p : Placed) (hp : Mapped rs p) : p.entity.className ≠ target :=
      fun hname => hmapped ⟨p, hp, hname⟩
    have hunknown : target ∉ h.names := fun hname => hmapped ((mem_names_iff hrs).mp hname)
    have hkey := finderKey_of_not_mem hunknown
    have hwalk : h.Walk target [target] (h.finderKey target) := by
      rw [hkey]
      exact walk_of_unmapped hrs hnone
    exact ⟨[target], hwalk, List.nodup_singleton _, fun _ _ => hwalk.functional,
      fun p hp hname => absurd hname (hnone p hp), fun _ => ⟨rfl, hkey⟩⟩

/-- The walk from a class without a key to the one around it. -/
theorem finder_walk_ends_school :
    ofResources Scaffold.schoolResources = .ok Scaffold.schoolHierarchy ∧
      Scaffold.schoolHierarchy.Walk "Student" ["Student", "Person"]
        ⟨⟨"java.math.BigInteger"⟩, "Number"⟩ ∧
      Scaffold.schoolHierarchy.finderKey "Student" = ⟨⟨"java.math.BigInteger"⟩, "Number"⟩ := by
  have hschool : ofResources Scaffold.schoolResources = .ok Scaffold.schoolHierarchy := rfl
  have hwalk : Scaffold.schoolHierarchy.Walk "Student" ["Student", "Person"]
      ⟨⟨"java.math.BigInteger"⟩, "Number"⟩ := .onwards (by decide) (by decide) (.found (by decide))
  obtain ⟨_, -, -, hunique, -⟩ := finder_walk_ends hschool "Student"
  exact ⟨hschool, hwalk, (hunique _ _ hwalk).2.symm⟩

end Hierarchy

end EntityScaffold
