import EntityScaffold.Mapping.Resource

/-!
# Mandatory attributes

Reading a mapping document asks for attributes in a fixed order (`Demand.ofDocument`): class by
class for the name, the key, the properties, the associations and the sets, then for what the
classes derived from it need. Which attributes these are depends on the elements alone, not on what
was read before, so every reader asks for a list of them (`Reading.Asks`) and a sequence of readers
for one list after the other.

`Requires` says without an order what a class has to have. A document is rejected exactly if one of
these attributes is missing, and the failure is about the first such one in the order of reading
(`Resource.rejected_exactly_for_omissions`).
-/

namespace EntityScaffold.Mapping

open Xml (Element)

variable {α β : Type}

/-- An element that has to have an attribute. -/
structure Demand where
  element : Element
  name : String

namespace Demand

def Met (d : Demand) : Prop :=
  (d.element.attr? d.name).isSome

def omission? (d : Demand) : Option Omission :=
  match d.element.attr? d.name with
  | some _ => none
  | none => some ⟨d.element.name, d.name⟩

theorem omission?_eq_none_iff {d : Demand} : d.omission? = none ↔ d.Met := by
  unfold omission? Met
  cases d.element.attr? d.name <;> simp

theorem omission?_eq_some_iff {d : Demand} {o : Omission} :
    d.omission? = some o ↔ ¬ d.Met ∧ o = ⟨d.element.name, d.name⟩ := by
  unfold omission? Met
  cases d.element.attr? d.name <;> simp [eq_comm]

/-- Several attributes of one element, in order. -/
def each (e : Element) (names : List String) : List Demand :=
  names.map (⟨e, ·⟩)

theorem mem_each_iff {d : Demand} {e : Element} {names : List String} :
    d ∈ each e names ↔ d.element = e ∧ d.name ∈ names := by
  unfold each
  rw [List.mem_map]
  constructor
  · rintro ⟨name, hname, rfl⟩
    exact ⟨rfl, hname⟩
  · rintro ⟨rfl, hname⟩
    exact ⟨d.name, hname, rfl⟩

end Demand

/-! ## Readings that ask -/

namespace Reading

/-- The omission that ended a reading. -/
def omission? (r : Reading α) : Option Omission :=
  match r.outcome with
  | .ok _ => none
  | .error omission => some omission

/-- The reading asks for the attributes in this order: it ends at the first one that is missing, and
only there. -/
def Asks (r : Reading α) (ds : List Demand) : Prop :=
  r.omission? = ds.findSome? Demand.omission?

variable {r : Reading α} {next : α → Reading β} {ds ds' : List Demand}

theorem Asks.pure (a : α) : Asks (Pure.pure a : Reading α) [] :=
  rfl

theorem Asks.notice (n : Notice) : Asks (Reading.notice n) [] :=
  rfl

theorem Asks.required (e : Element) (name : String) :
    Asks (Reading.required e name) [⟨e, name⟩] := by
  unfold Asks Reading.required
  rw [List.findSome?_singleton]
  unfold Demand.omission?
  cases e.attr? name <;> rfl

theorem Asks.bind (hr : r.Asks ds) (hnext : ∀ a, (next a).Asks ds') :
    (r >>= next).Asks (ds ++ ds') := by
  unfold Asks at *
  rw [List.findSome?_append, ← hr]
  cases hend : r.outcome with
  | ok a =>
    have hbind : (r >>= next).omission? = (next a).omission? := by
      simp only [Bind.bind, andThen, omission?, hend]
    have hr : r.omission? = none := by simp only [omission?, hend]
    rw [hbind, hnext a, hr, Option.none_or]
  | error omission =>
    -- `next` is not run, so what it asks for comes too late to be missed
    have hbind : (r >>= next).omission? = some omission := by
      simp only [Bind.bind, andThen, omission?, hend]
    have hr : r.omission? = some omission := by simp only [omission?, hend]
    rw [hbind, hr, Option.some_or]

theorem Asks.bindSilent (hr : r.Asks ds) (hnext : ∀ a, (next a).Asks []) :
    (r >>= next).Asks ds := by
  rw [← List.append_nil ds]
  exact hr.bind hnext

theorem Asks.andReturn (hr : r.Asks ds) (f : α → β) : (r >>= fun a => Pure.pure (f a)).Asks ds :=
  hr.bindSilent fun a => .pure (f a)

theorem Asks.collect {read : Element → Reading (Option α)} {demands : Element → List Demand}
    (hread : ∀ e, (read e).Asks (demands e)) (es : List Element) :
    (Reading.collect read es).Asks (es.flatMap demands) := by
  induction es with
  | nil => exact .pure []
  | cons e es ih =>
    rw [List.flatMap_cons, Reading.collect]
    exact (hread e).bind fun first => ih.andReturn _

theorem outcome_eq_error_iff {omission : Omission} :
    r.outcome = .error omission ↔ r.omission? = some omission := by
  unfold omission?
  cases r.outcome <;> simp

/-- A reading fails if one of the attributes it asks for is missing. -/
theorem Asks.exists_error_iff (hr : r.Asks ds) :
    (∃ omission, r.outcome = .error omission) ↔ ∃ d ∈ ds, ¬ d.Met := by
  simp only [outcome_eq_error_iff, ← Option.isSome_iff_exists]
  rw [hr, List.findSome?_isSome_iff]
  simp only [Option.isSome_iff_ne_none, ne_eq, Demand.omission?_eq_none_iff]

theorem Asks.outcome_eq_error_iff (hr : r.Asks ds) {omission : Omission} :
    r.outcome = .error omission ↔
      ∃ before d after, ds = before ++ d :: after ∧ (∀ earlier ∈ before, earlier.Met) ∧ ¬ d.Met ∧
        omission = ⟨d.element.name, d.name⟩ := by
  rw [Reading.outcome_eq_error_iff, hr, List.findSome?_eq_some_iff]
  simp only [Demand.omission?_eq_some_iff, Demand.omission?_eq_none_iff]
  constructor
  · rintro ⟨before, d, after, hds, ⟨hunmet, ho⟩, hmet⟩
    exact ⟨before, d, after, hds, hmet, hunmet, ho⟩
  · rintro ⟨before, d, after, hds, hmet, hunmet, ho⟩
    exact ⟨before, d, after, hds, ⟨hunmet, ho⟩, hmet⟩

end Reading

/-! ## The order of reading -/

namespace Demand

/-- What a child of a composite key needs. -/
def ofKeyChild (e : Element) : List Demand :=
  match ComponentKind.ofTag? e.name with
  | none => []
  | some kind => each e ["name", kind.typeAttribute]

/-- What the key of a class needs. A composite key counts only where there is no simple one. -/
def ofKey (c : Element) : List Demand :=
  match c.child? "id", c.child? "composite-id" with
  | some id, _ => each id ["name", "type", "column"]
  | none, some key => key.children.flatMap ofKeyChild
  | none, none => []

/-- What a set needs. -/
def ofSet (e : Element) : List Demand :=
  each e ["name"] ++
    match SetMember.elementChild? e with
    | none => []
    | some (kind, child) => each child [kind.typeAttribute]

/-- What a class needs itself. -/
def own (c : Element) : List Demand :=
  each c ["name"] ++ (ofKey c ++
    ((c.childrenNamed "property").flatMap (each · ["name"]) ++
      ((c.childrenNamed "many-to-one").flatMap (each · ["name", "class"]) ++
        (c.childrenNamed "set").flatMap ofSet)))

mutual

/-- What a class needs, and after it the classes derived from it. -/
def ofClass : Element → List Demand
  | .mk tag attributes children => own (.mk tag attributes children) ++ ofDerived children

/-- What the derived classes among the children of a class need. -/
def ofDerived : List Element → List Demand
  | [] => []
  | child :: children =>
    match EntityKind.ofTag? child.name with
    | none => ofDerived children
    | some _ => ofClass child ++ ofDerived children

end

/-- What a mapping document needs. -/
def ofDocument (root : Element) : List Demand :=
  (root.childrenNamed "class").flatMap ofClass

end Demand

open Reading

variable (package : Option String)

theorem asks_requiredType (e : Element) (name : String) :
    (requiredType package e name).Asks [⟨e, name⟩] :=
  (Asks.required e name).andReturn _

theorem SimpleKey.asks_read (e : Element) :
    (SimpleKey.read package e).Asks (Demand.each e ["name", "type", "column"]) :=
  (Asks.required e "name").bind fun _ =>
    (asks_requiredType package e "type").bind fun _ => (Asks.required e "column").andReturn _

theorem KeyComponent.asks_read? (e : Element) :
    (KeyComponent.read? package e).Asks (Demand.ofKeyChild e) := by
  unfold KeyComponent.read? Demand.ofKeyChild
  cases ComponentKind.ofTag? e.name with
  | none => exact .pure none
  | some kind =>
    exact (Asks.required e "name").bind fun _ =>
      (asks_requiredType package e kind.typeAttribute).andReturn _

theorem Key.asks_ofComponents (components : List KeyComponent) :
    (Key.ofComponents components).Asks [] := by
  unfold Key.ofComponents
  split
  · exact .pure _
  · exact (Asks.notice _).andReturn _

theorem Key.asks_read (c : Element) : (Key.read package c).Asks (Demand.ofKey c) := by
  unfold Key.read Demand.ofKey
  cases c.child? "id" with
  | some id =>
    have hkey := (SimpleKey.asks_read package id).andReturn fun key => some (Key.simple key)
    cases c.child? "composite-id" with
    | none => exact hkey
    | some _ => exact (Asks.notice .compositeKeyIgnored).bind fun _ => hkey
  | none =>
    cases c.child? "composite-id" with
    | none => exact .pure none
    | some key =>
      have hcomponents := Asks.collect (KeyComponent.asks_read? package) key.children
      exact hcomponents.bindSilent Key.asks_ofComponents

theorem Property.asks_read? (e : Element) :
    (Property.read? package e).Asks (Demand.each e ["name"]) := by
  refine (Asks.required e "name").bind fun name => ?_
  cases e.attr? "type" with
  | none => exact (Asks.notice _).andReturn _
  | some _ =>
    cases Source.ofElement? e with
    | none => exact (Asks.notice _).andReturn _
    | some _ => exact .pure _

theorem ManyToOne.asks_read? (e : Element) :
    (ManyToOne.read? package e).Asks (Demand.each e ["name", "class"]) := by
  refine (Asks.required e "name").bind fun name => ?_
  refine (asks_requiredType package e "class").bind fun target => ?_
  cases Source.ofElement? e with
  | none => exact (Asks.notice _).andReturn _
  | some _ => exact .pure _

theorem SetMember.asks_read? (e : Element) : (SetMember.read? package e).Asks (Demand.ofSet e) := by
  refine (Asks.required e "name").bind fun name => ?_
  cases SetMember.elementChild? e with
  | none => exact (Asks.notice _).andReturn _
  | some found => exact (asks_requiredType package found.2 found.1.typeAttribute).andReturn _

mutual

theorem Entity.asks_read (kind : EntityKind) :
    (c : Element) → (Entity.read package kind c).Asks (Demand.ofClass c)
  | .mk tag attributes children => by
    rw [Demand.ofClass, Demand.own]
    simp only [List.append_assoc]
    unfold Entity.read
    refine (Asks.required _ "name").bind fun name => ?_
    refine (Key.asks_read package _).bind fun key? => ?_
    refine (Asks.collect (Property.asks_read? package) _).bind fun properties => ?_
    refine (Asks.collect (ManyToOne.asks_read? package) _).bind fun manyToOnes => ?_
    refine (Asks.collect (SetMember.asks_read? package) _).bind fun sets => ?_
    exact (Entity.asks_readDerived children).andReturn _

theorem Entity.asks_readDerived :
    (children : List Element) →
      (Entity.readDerived package children).Asks (Demand.ofDerived children)
  | [] => .pure []
  | child :: children => by
    unfold Entity.readDerived Demand.ofDerived
    cases EntityKind.ofTag? child.name with
    | none => exact Entity.asks_readDerived children
    | some kind =>
      exact (Entity.asks_read kind child).bind fun first =>
        (Entity.asks_readDerived children).andReturn _

end

theorem Resource.asks_read (path : String) (root : Element) :
    (Resource.read path root).Asks (Demand.ofDocument root) := by
  refine Asks.andReturn ?_ _
  exact Asks.collect (fun c => (Entity.asks_read _ .root c).andReturn _) _

/-! ## What has to be there -/

/-- The classes of a mapping document, at its top or derived from one of them. -/
inductive ClassShaped (root : Element) : Element → Prop
  | top {c : Element} (hc : c ∈ root.childrenNamed "class") : ClassShaped root c
  | derived {c d : Element} (hc : ClassShaped root c) (hd : d ∈ c.children)
      (htag : d.name = "subclass" ∨ d.name = "union-subclass") : ClassShaped root d

/-- The element has to have the attribute for the class `c` to be read. -/
inductive Requires (c : Element) : Element → String → Prop
  | name : Requires c c "name"
  | simpleKey {id : Element} {name : String} (hid : c.child? "id" = some id)
      (hname : name ∈ ["name", "type", "column"]) : Requires c id name
  | keyProperty {key e : Element} {name : String} (hid : c.child? "id" = none)
      (hkey : c.child? "composite-id" = some key) (he : e ∈ key.childrenNamed "key-property")
      (hname : name ∈ ["name", "type"]) : Requires c e name
  | keyManyToOne {key e : Element} {name : String} (hid : c.child? "id" = none)
      (hkey : c.child? "composite-id" = some key) (he : e ∈ key.childrenNamed "key-many-to-one")
      (hname : name ∈ ["name", "class"]) : Requires c e name
  | property {e : Element} (he : e ∈ c.childrenNamed "property") : Requires c e "name"
  | manyToOne {e : Element} {name : String} (he : e ∈ c.childrenNamed "many-to-one")
      (hname : name ∈ ["name", "class"]) : Requires c e name
  | set {e : Element} (he : e ∈ c.childrenNamed "set") : Requires c e "name"
  | manyToMany {set e : Element} (hset : set ∈ c.childrenNamed "set")
      (he : set.child? "many-to-many" = some e) : Requires c e "class"
  | oneToMany {set e : Element} (hset : set ∈ c.childrenNamed "set")
      (hmany : set.child? "many-to-many" = none) (he : set.child? "one-to-many" = some e) :
      Requires c e "class"
  | value {set e : Element} (hset : set ∈ c.childrenNamed "set")
      (hmany : set.child? "many-to-many" = none) (hone : set.child? "one-to-many" = none)
      (he : set.child? "element" = some e) : Requires c e "type"

theorem EntityKind.isSome_ofTag?_iff {tag : String} :
    (EntityKind.ofTag? tag).isSome ↔ tag = "subclass" ∨ tag = "union-subclass" := by
  unfold EntityKind.ofTag?
  rw [List.lookup_isSome_iff]
  simp

theorem ComponentKind.ofTag?_eq_some_iff {tag : String} {kind : ComponentKind} :
    ComponentKind.ofTag? tag = some kind ↔ tag = kind.tag := by
  constructor
  · intro h
    unfold ComponentKind.ofTag? at h
    have htag := List.find?_some h
    exact (beq_iff_eq.mp htag).symm
  · rintro rfl
    cases kind <;> rfl

theorem SetMember.elementChild?_eq_some_iff {e child : Element} {kind : ElementKind} :
    SetMember.elementChild? e = some (kind, child) ↔
      match kind with
      | .manyToMany => e.child? "many-to-many" = some child
      | .oneToMany => e.child? "many-to-many" = none ∧ e.child? "one-to-many" = some child
      | .value => e.child? "many-to-many" = none ∧ e.child? "one-to-many" = none ∧
          e.child? "element" = some child := by
  simp only [SetMember.elementChild?, ElementKind.all, List.findSome?_cons, List.findSome?_nil,
    ElementKind.tag]
  cases e.child? "many-to-many" with
  | some many => cases kind <;> simp
  | none =>
    cases e.child? "one-to-many" with
    | some one => cases kind <;> simp
    | none => cases e.child? "element" <;> cases kind <;> simp

namespace Demand

variable {d : Demand} {c : Element}

theorem mem_ofKeyChild_iff {e : Element} :
    d ∈ ofKeyChild e ↔ ∃ kind : ComponentKind, e.name = kind.tag ∧ d.element = e ∧
      d.name ∈ ["name", kind.typeAttribute] := by
  simp only [← ComponentKind.ofTag?_eq_some_iff]
  unfold ofKeyChild
  cases ComponentKind.ofTag? e.name with
  | none => simp
  | some kind => simp [mem_each_iff]

theorem mem_ofKey_iff : d ∈ ofKey c ↔
    (∃ id, c.child? "id" = some id ∧ d.element = id ∧ d.name ∈ ["name", "type", "column"]) ∨
      c.child? "id" = none ∧ ∃ key, c.child? "composite-id" = some key ∧
        ∃ e ∈ key.children, d ∈ ofKeyChild e := by
  unfold ofKey
  cases c.child? "id" with
  | some id =>
    simp only [mem_each_iff, Option.some_inj, exists_eq_left', reduceCtorEq, false_and, or_false]
  | none =>
    cases c.child? "composite-id" with
    | none => simp
    | some key => simp

theorem mem_ofSet_iff {e : Element} : d ∈ ofSet e ↔ (d.element = e ∧ d.name = "name") ∨
    ∃ kind, SetMember.elementChild? e = some (kind, d.element) ∧ d.name = kind.typeAttribute := by
  unfold ofSet
  cases SetMember.elementChild? e with
  | none => simp [mem_each_iff]
  | some found =>
    obtain ⟨kind, child⟩ := found
    simp [mem_each_iff, eq_comm, and_assoc]

theorem requires_of_mem_ofKey (h : d ∈ ofKey c) : Requires c d.element d.name := by
  rcases mem_ofKey_iff.mp h with ⟨id, hid, rfl, hname⟩ | ⟨hid, key, hkey, e, he, hd⟩
  · exact .simpleKey hid hname
  · obtain ⟨kind, htag, rfl, hname⟩ := mem_ofKeyChild_iff.mp hd
    have hchild : d.element ∈ key.childrenNamed kind.tag :=
      List.mem_filter.mpr ⟨he, beq_iff_eq.mpr htag⟩
    cases kind with
    | property => exact .keyProperty hid hkey hchild hname
    | manyToOne => exact .keyManyToOne hid hkey hchild hname

theorem requires_of_mem_ofSet {set : Element} (hset : set ∈ c.childrenNamed "set")
    (h : d ∈ ofSet set) : Requires c d.element d.name := by
  rcases mem_ofSet_iff.mp h with ⟨rfl, hname⟩ | ⟨kind, hchild, hname⟩
  · rw [hname]
    exact .set hset
  · rw [SetMember.elementChild?_eq_some_iff] at hchild
    rw [hname]
    cases kind with
    | manyToMany => exact .manyToMany hset hchild
    | oneToMany => exact .oneToMany hset hchild.1 hchild.2
    | value => exact .value hset hchild.1 hchild.2.1 hchild.2.2

theorem requires_of_mem_own (h : d ∈ own c) : Requires c d.element d.name := by
  simp only [own, List.mem_append, List.mem_flatMap] at h
  rcases h with h | h | ⟨member, hmember, h⟩ | ⟨member, hmember, h⟩ | ⟨set, hset, h⟩
  · obtain ⟨hclass, hname⟩ := mem_each_iff.mp h
    rw [List.mem_singleton.mp hname, hclass]
    exact .name
  · exact requires_of_mem_ofKey h
  · obtain ⟨rfl, hname⟩ := mem_each_iff.mp h
    rw [List.mem_singleton.mp hname]
    exact .property hmember
  · obtain ⟨rfl, hname⟩ := mem_each_iff.mp h
    exact .manyToOne hmember hname
  · exact requires_of_mem_ofSet hset h

theorem mem_ofKey_of_component {key e : Element} {name : String} (kind : ComponentKind)
    (hid : c.child? "id" = none) (hkey : c.child? "composite-id" = some key)
    (he : e ∈ key.childrenNamed kind.tag) (hname : name ∈ ["name", kind.typeAttribute]) :
    ⟨e, name⟩ ∈ ofKey c := by
  obtain ⟨hchild, htag⟩ := List.mem_filter.mp he
  exact mem_ofKey_iff.mpr (.inr ⟨hid, key, hkey, e, hchild,
    mem_ofKeyChild_iff.mpr ⟨kind, beq_iff_eq.mp htag, rfl, hname⟩⟩)

theorem mem_own_of_requires {e : Element} {name : String} (h : Requires c e name) :
    ⟨e, name⟩ ∈ own c := by
  have hkey {d : Demand} (h : d ∈ ofKey c) : d ∈ own c :=
    List.mem_append_right _ (List.mem_append_left _ h)
  have hset {set : Element} {d : Demand} (hset : set ∈ c.childrenNamed "set") (h : d ∈ ofSet set) :
      d ∈ own c := by
    simp only [own, List.mem_append, List.mem_flatMap]
    exact .inr (.inr (.inr (.inr ⟨set, hset, h⟩)))
  have hchild {set : Element} (kind : ElementKind)
      (h : SetMember.elementChild? set = some (kind, e)) : ⟨e, kind.typeAttribute⟩ ∈ ofSet set :=
    mem_ofSet_iff.mpr (.inr ⟨kind, h, rfl⟩)
  cases h with
  | name => exact List.mem_append_left _ (mem_each_iff.mpr ⟨rfl, List.mem_singleton_self _⟩)
  | simpleKey hid hname => exact hkey (mem_ofKey_iff.mpr (.inl ⟨_, hid, rfl, hname⟩))
  | keyProperty hid hcomposite he hname =>
    exact hkey (mem_ofKey_of_component .property hid hcomposite he hname)
  | keyManyToOne hid hcomposite he hname =>
    exact hkey (mem_ofKey_of_component .manyToOne hid hcomposite he hname)
  | property he =>
    simp only [own, List.mem_append, List.mem_flatMap]
    exact .inr (.inr (.inl ⟨_, he, mem_each_iff.mpr ⟨rfl, List.mem_singleton_self _⟩⟩))
  | manyToOne he hname =>
    simp only [own, List.mem_append, List.mem_flatMap]
    exact .inr (.inr (.inr (.inl ⟨_, he, mem_each_iff.mpr ⟨rfl, hname⟩⟩)))
  | set he => exact hset he (mem_ofSet_iff.mpr (.inl ⟨rfl, rfl⟩))
  | manyToMany h he =>
    exact hset h (hchild .manyToMany (SetMember.elementChild?_eq_some_iff.mpr he))
  | oneToMany h hmany he =>
    exact hset h (hchild .oneToMany (SetMember.elementChild?_eq_some_iff.mpr ⟨hmany, he⟩))
  | value h hmany hone he =>
    exact hset h (hchild .value (SetMember.elementChild?_eq_some_iff.mpr ⟨hmany, hone, he⟩))

theorem mem_ofDerived_iff {es : List Element} : d ∈ ofDerived es ↔
    ∃ e ∈ es, (e.name = "subclass" ∨ e.name = "union-subclass") ∧ d ∈ ofClass e := by
  induction es with
  | nil => simp [ofDerived]
  | cons e es ih =>
    simp only [List.mem_cons, exists_eq_or_imp, ← ih]
    rw [ofDerived, ← EntityKind.isSome_ofTag?_iff]
    cases EntityKind.ofTag? e.name <;> simp

theorem mem_ofClass_iff : d ∈ ofClass c ↔ d ∈ own c ∨ d ∈ ofDerived c.children := by
  cases c with
  | mk tag attributes children =>
    rw [ofClass, List.mem_append]
    rfl

theorem subset_ofDocument {root : Element} (hc : ClassShaped root c) :
    ofClass c ⊆ ofDocument root := by
  -- the list of a derived class is a part of the list of the class around it
  induction hc with
  | top hc => exact fun d hd => List.mem_flatMap.mpr ⟨_, hc, hd⟩
  | derived _ hd htag ih =>
    exact fun d h => ih (mem_ofClass_iff.mpr (.inr (mem_ofDerived_iff.mpr ⟨_, hd, htag, h⟩)))

theorem requires_of_mem_ofClass {root : Element} (c : Element) (hc : ClassShaped root c)
    (h : d ∈ ofClass c) : ∃ c', ClassShaped root c' ∧ Requires c' d.element d.name := by
  rcases mem_ofClass_iff.mp h with h | h
  · exact ⟨c, hc, requires_of_mem_own h⟩
  · obtain ⟨e, he, htag, h⟩ := mem_ofDerived_iff.mp h
    exact requires_of_mem_ofClass e (.derived hc he htag) h
termination_by sizeOf c
decreasing_by
  have hlt := List.sizeOf_lt_of_mem he
  cases c
  simp only [Element.children, Element.mk.sizeOf_spec] at *
  omega

theorem mem_ofDocument_iff {root : Element} :
    d ∈ ofDocument root ↔ ∃ c, ClassShaped root c ∧ Requires c d.element d.name := by
  constructor
  · intro h
    obtain ⟨c, hc, h⟩ := List.mem_flatMap.mp h
    exact requires_of_mem_ofClass c (.top hc) h
  · rintro ⟨c, hc, h⟩
    exact subset_ofDocument hc (mem_ofClass_iff.mpr (.inl (mem_own_of_requires h)))

end Demand

theorem mapError_eq_error_iff {ε ε' : Type} {x : Except ε α} {f : ε → ε'} {e' : ε'} :
    x.mapError f = .error e' ↔ ∃ e, x = .error e ∧ f e = e' := by
  cases x with
  | ok a => exact ⟨fun h => absurd h nofun, fun ⟨_, h, _⟩ => absurd h nofun⟩
  | error e =>
    constructor
    · exact fun h => ⟨e, rfl, Except.error.inj h⟩
    · rintro ⟨_, h, rfl⟩
      rw [← Except.error.inj h]
      rfl

/-- A mapping document is rejected exactly if an attribute that one of its classes has to have is
missing. The list of the document has these attributes in the order of reading, and the failure
names the document, the element and the attribute for the first one that is missing. -/
theorem Resource.rejected_exactly_for_omissions (path : String) (root : Element) :
    let outcome := (Resource.read path root).outcome.mapError (·.toFailure path)
    ((∃ failure, outcome = .error failure) ↔
      ∃ c, ClassShaped root c ∧ ∃ e name, Requires c e name ∧ e.attr? name = none) ∧
    (∀ d, d ∈ Demand.ofDocument root ↔
      ∃ c, ClassShaped root c ∧ Requires c d.element d.name) ∧
    ∀ failure, outcome = .error failure ↔
      ∃ before d after, Demand.ofDocument root = before ++ d :: after ∧
        (∀ earlier ∈ before, earlier.Met) ∧ ¬ d.Met ∧
        failure = .missingAttribute path d.element.name d.name := by
  intro outcome
  have hasks := Resource.asks_read path root
  have herror (failure : Failure) : outcome = .error failure ↔ ∃ omission,
      (Resource.read path root).outcome = .error omission ∧ omission.toFailure path = failure :=
    mapError_eq_error_iff
  refine ⟨?_, fun d => Demand.mem_ofDocument_iff, fun failure => ?_⟩
  · constructor
    · rintro ⟨failure, hfailure⟩
      obtain ⟨omission, homission, -⟩ := (herror failure).mp hfailure
      obtain ⟨d, hd, hunmet⟩ := hasks.exists_error_iff.mp ⟨omission, homission⟩
      obtain ⟨c, hc, hrequires⟩ := Demand.mem_ofDocument_iff.mp hd
      exact ⟨c, hc, d.element, d.name, hrequires, Option.not_isSome_iff_eq_none.mp hunmet⟩
    · rintro ⟨c, hc, e, name, hrequires, hmissing⟩
      have hd : ⟨e, name⟩ ∈ Demand.ofDocument root :=
        Demand.mem_ofDocument_iff.mpr ⟨c, hc, hrequires⟩
      obtain ⟨omission, homission⟩ := hasks.exists_error_iff.mpr
        ⟨_, hd, Option.not_isSome_iff_eq_none.mpr hmissing⟩
      exact ⟨_, (herror _).mpr ⟨omission, homission, rfl⟩⟩
  · rw [herror]
    simp only [hasks.outcome_eq_error_iff]
    constructor
    · rintro ⟨_, ⟨before, d, after, hds, hmet, hunmet, rfl⟩, rfl⟩
      exact ⟨before, d, after, hds, hmet, hunmet, rfl⟩
    · rintro ⟨before, d, after, hds, hmet, hunmet, rfl⟩
      exact ⟨_, ⟨before, d, after, hds, hmet, hunmet, rfl⟩, rfl⟩

/-- The members of a class are read before the classes derived from it, wherever they stand. -/
example : (Resource.read "Room.hbm.xml" (.mk "hibernate-mapping" [] [
      .mk "class" [⟨none, "name", "Room"⟩] [.mk "subclass" [] [], .mk "set" [] []]])).outcome =
    .error ⟨"set", "name"⟩ := rfl

end EntityScaffold.Mapping
