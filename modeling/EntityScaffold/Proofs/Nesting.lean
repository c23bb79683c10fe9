import EntityScaffold.Mapping.Resource

/-!
# Nesting of entities

`Entity.placed` walks over the entities of a document in order. Here the walk is tied to the
nesting itself, which is a relation between an entity and the entities around it:

* the walk lists exactly the entities at their places (`mem_placedAll_iff`, `mem_placed_iff`);
* an entity comes after the one it is derived from (`ParentsListed`, `parentsListed_placed`), so
  whatever is recorded on the way is complete for all enclosing entities.
-/

namespace EntityScaffold.Mapping

/-- `e` is one of `roots` or derived from them, nested in the entities `above`, the innermost
first. -/
inductive NestedIn (roots : List Entity) : Entity → List Entity → Prop
  | root {e : Entity} (h : e ∈ roots) : NestedIn roots e []
  | derived {e parent : Entity} {above : List Entity} (outer : NestedIn roots parent above)
      (h : e ∈ parent.derived) : NestedIn roots e (parent :: above)

/-- `p` is an entity that the documents map, at its place. -/
def Mapped (rs : List Resource) (p : Placed) : Prop :=
  ∃ r ∈ rs, NestedIn r.entities p.entity p.above

/-- Nesting below a derived entity continues the nesting of that entity. -/
theorem NestedIn.nest {roots : List Entity} {parent e : Entity} {outer inner : List Entity}
    (ho : NestedIn roots parent outer) (hi : NestedIn parent.derived e inner) :
    NestedIn roots e (inner ++ parent :: outer) := by
  induction hi with
  | root h => exact .derived ho h
  | derived _ h ih => exact .derived ih h

/-- The entity next around a mapped one is mapped with it. -/
theorem Mapped.outer {rs : List Resource} {e parent : Entity} {rest : List Entity}
    (hp : Mapped rs ⟨e, parent :: rest⟩) : Mapped rs ⟨parent, rest⟩ := by
  obtain ⟨r, hr, hnested⟩ := hp
  cases hnested with
  | derived houter _ => exact ⟨r, hr, houter⟩

theorem NestedIn.mono {roots more : List Entity} {e : Entity} {above : List Entity}
    (hsub : ∀ x ∈ roots, x ∈ more) (h : NestedIn roots e above) : NestedIn more e above := by
  induction h with
  | root h => exact .root (hsub _ h)
  | derived _ h ih => exact .derived ih h

/-! ## The walk lists the places -/

theorem placed_eq (above : List Entity) (e : Entity) :
    e.placed above = ⟨e, above⟩ :: placedAll (e :: above) e.derived := by
  cases e
  rw [Entity.placed]

mutual

theorem nestedIn_of_mem_placed {above : List Entity} {p : Placed} :
    ∀ e : Entity, p ∈ e.placed above →
      ∃ inner, p.above = inner ++ above ∧ NestedIn [e] p.entity inner
  | .mk kind name type isAbstract key? properties manyToOnes sets derived => by
    intro hp
    rw [placed_eq] at hp
    rcases List.mem_cons.mp hp with rfl | hp
    · exact ⟨[], rfl, .root List.mem_cons_self⟩
    · obtain ⟨inner, habove, hinner⟩ := nestedIn_of_mem_placedAll derived hp
      refine ⟨inner ++ [.mk kind name type isAbstract key? properties manyToOnes sets derived],
        by simp [habove], ?_⟩
      exact (NestedIn.root List.mem_cons_self).nest hinner

/-- What the walk below `above` lists is nested in what it walks over, and then in `above`. -/
theorem nestedIn_of_mem_placedAll {above : List Entity} {p : Placed} :
    ∀ es : List Entity, p ∈ placedAll above es →
      ∃ inner, p.above = inner ++ above ∧ NestedIn es p.entity inner
  | [] => by simp [placedAll]
  | e :: es => by
    intro hp
    rw [placedAll] at hp
    rcases List.mem_append.mp hp with hp | hp
    · obtain ⟨inner, habove, hinner⟩ := nestedIn_of_mem_placed e hp
      exact ⟨inner, habove, hinner.mono (by simp)⟩
    · obtain ⟨inner, habove, hinner⟩ := nestedIn_of_mem_placedAll es hp
      exact ⟨inner, habove, hinner.mono fun x hx => List.mem_cons_of_mem e hx⟩

end

theorem mem_placedAll_of_mem {above es : List Entity} {e : Entity} (h : e ∈ es) :
    ∀ {p : Placed}, p ∈ e.placed above → p ∈ placedAll above es := by
  induction es with
  | nil => exact absurd h List.not_mem_nil
  | cons first rest ih =>
    intro p hp
    rw [placedAll]
    rcases List.mem_cons.mp h with rfl | h
    · exact List.mem_append_left _ hp
    · exact List.mem_append_right _ (ih h hp)

mutual

theorem derived_mem_placed {above : List Entity} {p : Placed} {d : Entity}
    (hd : d ∈ p.entity.derived) :
    ∀ e : Entity, p ∈ e.placed above → ⟨d, p.path⟩ ∈ e.placed above
  | .mk kind name type isAbstract key? properties manyToOnes sets derived => by
    intro hp
    rw [placed_eq] at hp ⊢
    refine List.mem_cons_of_mem _ ?_
    rcases List.mem_cons.mp hp with rfl | hp
    · refine mem_placedAll_of_mem hd ?_
      rw [placed_eq]
      exact List.mem_cons_self
    · exact derived_mem_placedAll hd derived hp

/-- The walk goes on to the entities derived from what it lists. -/
theorem derived_mem_placedAll {above : List Entity} {p : Placed} {d : Entity}
    (hd : d ∈ p.entity.derived) :
    ∀ es : List Entity, p ∈ placedAll above es → ⟨d, p.path⟩ ∈ placedAll above es
  | [] => by simp [placedAll]
  | e :: es => by
    intro hp
    rw [placedAll] at hp ⊢
    rcases List.mem_append.mp hp with hp | hp
    · exact List.mem_append_left _ (derived_mem_placed hd e hp)
    · exact List.mem_append_right _ (derived_mem_placedAll hd es hp)

end

/-- The walk from the top of a document lists exactly the entities at their places. -/
theorem mem_placedAll_iff {roots : List Entity} {p : Placed} :
    p ∈ placedAll [] roots ↔ NestedIn roots p.entity p.above := by
  constructor
  · intro hp
    obtain ⟨inner, habove, hinner⟩ := nestedIn_of_mem_placedAll roots hp
    rw [habove, List.append_nil]
    exact hinner
  · rcases p with ⟨e, above⟩
    intro h
    change NestedIn roots e above at h
    induction h with
    | root h =>
      refine mem_placedAll_of_mem h ?_
      rw [placed_eq]
      exact List.mem_cons_self
    | derived _ h ih => exact derived_mem_placedAll h roots ih

/-- The walk over all documents lists exactly the entities that they map. -/
theorem mem_placed_iff {rs : List Resource} {p : Placed} :
    p ∈ rs.flatMap (·.placed) ↔ Mapped rs p := by
  rw [List.mem_flatMap]
  exact exists_congr fun r => and_congr_right fun _ => mem_placedAll_iff

/-! ## Enclosing entities come first -/

/-- The entity next above, if there is one, was listed before. -/
def ParentListed (above : List Entity) (earlier : List Placed) : Prop :=
  ∀ parent rest, above = parent :: rest → ⟨parent, rest⟩ ∈ earlier

/-- In a list with the latest first, every entity has the one it is derived from behind it. -/
def ParentsListed : List Placed → Prop
  | [] => True
  | p :: earlier => ParentListed p.above earlier ∧ ParentsListed earlier

theorem parentListed_nil (earlier : List Placed) : ParentListed [] earlier :=
  fun _ _ heq => absurd heq.symm (List.cons_ne_nil _ _)

theorem ParentListed.append {above : List Entity} {earlier : List Placed}
    (h : ParentListed above earlier) (later : List Placed) :
    ParentListed above (later ++ earlier) :=
  fun parent rest heq => List.mem_append_right later (h parent rest heq)

theorem ParentsListed.of_append {later earlier : List Placed}
    (h : ParentsListed (later ++ earlier)) : ParentsListed earlier := by
  induction later with
  | nil => exact h
  | cons p later ih => exact ih h.2

mutual

theorem parentsListed_of_placed {above : List Entity} {earlier : List Placed}
    (hlisted : ParentsListed earlier) (habove : ParentListed above earlier) :
    ∀ e : Entity, ParentsListed ((e.placed above).reverse ++ earlier)
  | .mk kind name type isAbstract key? properties manyToOnes sets derived => by
    rw [placed_eq, List.reverse_cons, List.append_assoc]
    have hself : ParentsListed
        (⟨.mk kind name type isAbstract key? properties manyToOnes sets derived, above⟩ ::
          earlier) := ⟨habove, hlisted⟩
    refine parentsListed_of_placedAll hself ?_ derived
    intro parent rest heq
    obtain ⟨rfl, rfl⟩ := List.cons.inj heq
    exact List.mem_cons_self

theorem parentsListed_of_placedAll {above : List Entity} {earlier : List Placed}
    (hlisted : ParentsListed earlier) (habove : ParentListed above earlier) :
    ∀ es : List Entity, ParentsListed ((placedAll above es).reverse ++ earlier)
  | [] => by simpa [placedAll] using hlisted
  | e :: es => by
    rw [placedAll, List.reverse_append, List.append_assoc]
    exact parentsListed_of_placedAll (parentsListed_of_placed hlisted habove e)
      (habove.append _) es

end

theorem parentsListed_append_placed {earlier : List Placed} (hlisted : ParentsListed earlier)
    (rs : List Resource) : ParentsListed ((rs.flatMap (·.placed)).reverse ++ earlier) := by
  induction rs generalizing earlier with
  | nil => simpa using hlisted
  | cons r rs ih =>
    rw [List.flatMap_cons, List.reverse_append, List.append_assoc]
    exact ih (parentsListed_of_placedAll hlisted (parentListed_nil _) r.entities)

/-- The walk over all documents comes to an entity after the one it is derived from. -/
theorem parentsListed_placed (rs : List Resource) :
    ParentsListed (rs.flatMap (·.placed)).reverse := by
  simpa using parentsListed_append_placed (show ParentsListed [] from trivial) rs

/-! ## Inherited keys -/

namespace Placed

variable {e parent : Entity} {above : List Entity}

/-- The key of an entity itself wins over all keys further out. -/
theorem key?_of_own {key : SimpleKey} (h : e.simpleKey? = some key) :
    (⟨e, above⟩ : Placed).key? = some key := by
  simp [key?, path, h]

/-- Without a key of its own a derived entity has the key of the entity around it. -/
theorem key?_of_inherited (h : e.simpleKey? = none) :
    (⟨e, parent :: above⟩ : Placed).key? = (⟨parent, above⟩ : Placed).key? := by
  simp [key?, path, h]

theorem key?_of_root (h : e.simpleKey? = none) : (⟨e, []⟩ : Placed).key? = none := by
  simp [key?, path, h]

end Placed

end EntityScaffold.Mapping
