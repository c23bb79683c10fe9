import Mathlib.Data.List.Forall2
import EntityScaffold.Proofs.MandatoryAttributes
import EntityScaffold.Proofs.Nesting

/-!
# Members are kept or warned about

A member that cannot be generated is left out of its entity. It is not left out silently: of the
children of a class that declare members, those of one kind go to the list of that kind, one by one
and in order, and for each of the others there is one line of the log (`MemberRule.Accounted`).
Which of the two it is depends on the element alone.

`ReadAs` says of a class, of the entity it was read as and of the lines given on the way that they
fit in this sense, for the class and for all classes derived from it. Whatever a mapping document is
read as fits its root element (`Resource.members_kept_or_warned_about`).
-/

namespace EntityScaffold.Mapping

open Java (TypeName)
open Xml (Element)

variable {α β M : Type}

/-! ## Readings that end well -/

namespace Reading

variable {notices : List Notice}

theorem eq_ok {r : Reading α} {a : α} (h : r.outcome = .ok a) : r = ⟨r.notices, .ok a⟩ := by
  rw [← h]

theorem pure_eq_ok_iff {a b : α} :
    (Pure.pure a : Reading α) = ⟨notices, .ok b⟩ ↔ notices = [] ∧ b = a := by
  simp [Pure.pure, eq_comm]

theorem notice_eq_ok_iff {n : Notice} {u : Unit} : notice n = ⟨notices, .ok u⟩ ↔ notices = [n] := by
  simp [notice, eq_comm]

theorem required_eq_ok_iff {e : Element} {name value : String} :
    required e name = ⟨notices, .ok value⟩ ↔ notices = [] ∧ e.attr? name = some value := by
  unfold required
  cases e.attr? name with
  | none => simp
  | some found => rw [pure_eq_ok_iff, Option.some_inj, eq_comm (a := value)]

theorem bind_eq_ok_iff {r : Reading α} {next : α → Reading β} {b : β} :
    r >>= next = ⟨notices, .ok b⟩ ↔ ∃ before a after, r = ⟨before, .ok a⟩ ∧
      next a = ⟨after, .ok b⟩ ∧ notices = before ++ after := by
  obtain ⟨earlier, outcome⟩ := r
  cases outcome with
  | error omission => simp [Bind.bind, andThen]
  | ok a =>
    constructor
    · intro h
      obtain ⟨rfl, hend⟩ := (Reading.mk.injEq ..).mp h
      exact ⟨earlier, a, (next a).notices, rfl, eq_ok hend, rfl⟩
    · rintro ⟨before, a', after, hr, hnext, rfl⟩
      cases hr
      simp only [Bind.bind, andThen, hnext]

end Reading

/-! ## Members of one kind -/

/-- How the members of one kind come from the children that declare them. -/
structure MemberRule (M : Type) where
  /-- The tag of these children. -/
  tag : String
  /-- The child declares a member that can be generated. -/
  usable : Element → Bool
  /-- The member that a child declares in a document with the given package. -/
  Declares : Option String → Element → M → Prop
  /-- What is said of a child that is left out. -/
  message : Element → String
  /-- What the name of such a member is called in the log. -/
  label : String

def hasSource (e : Element) : Bool :=
  (e.attr? "column").isSome || (e.attr? "formula").isSome

def propertyRule : MemberRule Property where
  tag := "property"
  usable e := (e.attr? "type").isSome && hasSource e
  Declares package e member := ∃ name token, e.attr? "name" = some name ∧
    member.name = accessorName name ∧ e.attr? "type" = some token ∧
    member.type = .ofToken token package ∧ Source.ofElement? e = some member.source
  message e :=
    if (e.attr? "type").isSome then "property with neither column nor formula, skipped"
    else "property without type, skipped"
  label := "property"

def manyToOneRule : MemberRule ManyToOne where
  tag := "many-to-one"
  usable := hasSource
  Declares package e member := ∃ name token, e.attr? "name" = some name ∧
    member.name = accessorName name ∧ e.attr? "class" = some token ∧
    member.target = .ofToken token package ∧ Source.ofElement? e = some member.source
  message _ := "many-to-one with neither column nor formula, skipped"
  label := "association"

def setRule : MemberRule SetMember where
  tag := "set"
  usable e := (e.child? "many-to-many").isSome || (e.child? "one-to-many").isSome ||
    (e.child? "element").isSome
  Declares package e member := ∃ name child token, e.attr? "name" = some name ∧
    member.name = accessorName name ∧ SetMember.elementChild? e = some (member.kind, child) ∧
    child.attr? member.kind.typeAttribute = some token ∧
    member.element = .ofToken token package
  message _ := "unknown type of set, skipped"
  label := "collection"

namespace MemberRule

/-- The line for a child that is left out. It has the names of the document and of the member. -/
def Warns (rule : MemberRule M) (document : String) (e : Element) (line : Log.Line) : Prop :=
  ∃ name, e.attr? "name" = some name ∧
    line = ⟨.warn, rule.message e, [("document", document), (rule.label, accessorName name)]⟩

/-- Every child is accounted for: the usable ones as the members, in order, the others as the
lines. -/
structure Accounted (rule : MemberRule M) (document : String) (package : Option String)
    (es : List Element) (members : List M) (lines : List Log.Line) : Prop where
  kept : List.Forall₂ (rule.Declares package) (es.filter rule.usable) members
  skipped : List.Forall₂ (rule.Warns document) (es.filter fun e => !rule.usable e) lines

/-- What a reader gives for a single child is what the rule says. -/
def FollowedBy (rule : MemberRule M) (document : String) (package : Option String)
    (read : Element → Reading (Option M)) : Prop :=
  ∀ e notices result, read e = ⟨notices, .ok result⟩ →
    match result with
    | some member => rule.usable e = true ∧ rule.Declares package e member ∧ notices = []
    | none => rule.usable e = false ∧
        ∃ notice : Notice, notices = [notice] ∧ rule.Warns document e (notice.toLine document)

variable {rule : MemberRule M} {document : String} {package : Option String}

theorem FollowedBy.accounted {read : Element → Reading (Option M)}
    (hread : rule.FollowedBy document package read) {es : List Element} {notices : List Notice}
    {members : List M} (h : Reading.collect read es = ⟨notices, .ok members⟩) :
    rule.Accounted document package es members (notices.map (·.toLine document)) := by
  induction es generalizing notices members with
  | nil =>
    obtain ⟨rfl, rfl⟩ := Reading.pure_eq_ok_iff.mp h
    exact ⟨.nil, .nil⟩
  | cons e es ih =>
    -- the first child adds to one of the two lists, and the rest is accounted for by `ih`
    simp only [Reading.collect, Reading.bind_eq_ok_iff, Reading.pure_eq_ok_iff] at h
    obtain ⟨before, result, _, hfirst, ⟨after, rest, _, hrest, ⟨rfl, rfl⟩, rfl⟩, rfl⟩ := h
    obtain ⟨hkept, hskipped⟩ := ih hrest
    rw [List.append_nil, List.map_append]
    cases result with
    | some member =>
      obtain ⟨husable, hdeclares, rfl⟩ := hread e before _ hfirst
      refine ⟨?_, ?_⟩
      · rw [List.filter_cons_of_pos husable]
        exact .cons hdeclares hkept
      · rw [List.filter_cons_of_neg (by simp [husable])]
        exact hskipped
    | none =>
      obtain ⟨hunusable, notice, rfl, hwarns⟩ := hread e before _ hfirst
      refine ⟨?_, ?_⟩
      · rw [List.filter_cons_of_neg (by simp [hunusable])]
        exact hkept
      · rw [List.filter_cons_of_pos (by simp [hunusable])]
        exact .cons hwarns hskipped

end MemberRule

open Reading

theorem Source.isSome_ofElement? (e : Element) :
    (Source.ofElement? e).isSome = hasSource e := by
  unfold Source.ofElement? hasSource
  cases e.attr? "column" <;> simp

theorem SetMember.isSome_elementChild? (e : Element) :
    (SetMember.elementChild? e).isSome = setRule.usable e := by
  simp only [SetMember.elementChild?, ElementKind.all, List.findSome?_cons, List.findSome?_nil,
    ElementKind.tag, setRule]
  cases e.child? "many-to-many" <;> cases e.child? "one-to-many" <;>
    cases e.child? "element" <;> rfl

theorem requiredType_eq_ok_iff {package : Option String} {e : Element} {name : String}
    {notices : List Notice} {type : TypeName} :
    requiredType package e name = ⟨notices, .ok type⟩ ↔
      notices = [] ∧ ∃ token, e.attr? name = some token ∧ type = .ofToken token package := by
  simp only [requiredType, bind_eq_ok_iff, required_eq_ok_iff, pure_eq_ok_iff]
  constructor
  · rintro ⟨_, token, _, ⟨rfl, htoken⟩, ⟨rfl, rfl⟩, rfl⟩
    exact ⟨rfl, token, htoken, rfl⟩
  · rintro ⟨rfl, token, htoken, rfl⟩
    exact ⟨[], token, [], ⟨rfl, htoken⟩, ⟨rfl, rfl⟩, rfl⟩

theorem skip_eq_ok_iff {n : Notice} {notices : List Notice} {result : Option M} :
    (do Reading.notice n; return none : Reading (Option M)) = ⟨notices, .ok result⟩ ↔
      notices = [n] ∧ result = none := by
  simp only [bind_eq_ok_iff, notice_eq_ok_iff, pure_eq_ok_iff]
  constructor
  · rintro ⟨_, _, _, rfl, ⟨rfl, rfl⟩, rfl⟩
    exact ⟨rfl, rfl⟩
  · rintro ⟨rfl, rfl⟩
    exact ⟨[n], (), [], rfl, ⟨rfl, rfl⟩, rfl⟩

theorem propertyRule_followedBy (document : String) (package : Option String) :
    propertyRule.FollowedBy document package (Property.read? package) := by
  intro e notices result h
  simp only [Property.read?, bind_eq_ok_iff, required_eq_ok_iff] at h
  obtain ⟨_, name, _, ⟨rfl, hname⟩, h, rfl⟩ := h
  cases htype : e.attr? "type" with
  | none =>
    have husable : propertyRule.usable e = false := by simp [propertyRule, htype]
    have hmessage : propertyRule.message e = "property without type, skipped" := by
      simp [propertyRule, htype]
    simp only [htype] at h
    obtain ⟨rfl, rfl⟩ := skip_eq_ok_iff.mp h
    exact ⟨husable, _, rfl, name, hname, by rw [hmessage]; rfl⟩
  | some token =>
    have husable : propertyRule.usable e = (Source.ofElement? e).isSome := by
      simp [propertyRule, htype, Source.isSome_ofElement?]
    have hmessage : propertyRule.message e =
        "property with neither column nor formula, skipped" := by
      simp [propertyRule, htype]
    cases hfound : Source.ofElement? e with
    | none =>
      simp only [htype, hfound] at h
      rw [hfound] at husable
      obtain ⟨rfl, rfl⟩ := skip_eq_ok_iff.mp h
      exact ⟨husable, _, rfl, name, hname, by rw [hmessage]; rfl⟩
    | some source =>
      simp only [htype, hfound] at h
      rw [hfound] at husable
      obtain ⟨rfl, rfl⟩ := pure_eq_ok_iff.mp h
      exact ⟨husable, ⟨name, token, hname, rfl, htype, rfl, hfound⟩, rfl⟩

theorem manyToOneRule_followedBy (document : String) (package : Option String) :
    manyToOneRule.FollowedBy document package (ManyToOne.read? package) := by
  intro e notices result h
  simp only [ManyToOne.read?, bind_eq_ok_iff, required_eq_ok_iff, requiredType_eq_ok_iff] at h
  obtain ⟨_, name, _, ⟨rfl, hname⟩, ⟨_, target, _, ⟨rfl, token, htoken, rfl⟩, h, rfl⟩, rfl⟩ := h
  have hsource := Source.isSome_ofElement? e
  cases hfound : Source.ofElement? e with
  | none =>
    simp only [hfound] at h
    rw [hfound] at hsource
    obtain ⟨rfl, rfl⟩ := skip_eq_ok_iff.mp h
    exact ⟨hsource.symm, _, rfl, name, hname, rfl⟩
  | some source =>
    simp only [hfound] at h
    rw [hfound] at hsource
    obtain ⟨rfl, rfl⟩ := pure_eq_ok_iff.mp h
    exact ⟨hsource.symm, ⟨name, token, hname, rfl, htoken, rfl, hfound⟩, rfl⟩

theorem setRule_followedBy (document : String) (package : Option String) :
    setRule.FollowedBy document package (SetMember.read? package) := by
  intro e notices result h
  simp only [SetMember.read?, bind_eq_ok_iff, required_eq_ok_iff] at h
  obtain ⟨_, name, _, ⟨rfl, hname⟩, h, rfl⟩ := h
  have husable := SetMember.isSome_elementChild? e
  cases hfound : SetMember.elementChild? e with
  | none =>
    simp only [hfound] at h
    rw [hfound] at husable
    obtain ⟨rfl, rfl⟩ := skip_eq_ok_iff.mp h
    exact ⟨husable.symm, _, rfl, name, hname, rfl⟩
  | some found =>
    obtain ⟨kind, child⟩ := found
    simp only [hfound, bind_eq_ok_iff, requiredType_eq_ok_iff, pure_eq_ok_iff] at h
    rw [hfound] at husable
    obtain ⟨_, type, _, ⟨rfl, token, htoken, rfl⟩, ⟨rfl, rfl⟩, rfl⟩ := h
    exact ⟨husable.symm, ⟨name, child, token, hname, rfl, hfound, htoken, rfl⟩, rfl⟩

/-! ## Keys -/

/-- The lines about the key of a class. They have the name of the document only. -/
def keyLines (document : String) (c : Element) : List Log.Line :=
  match c.child? "id", c.child? "composite-id" with
  | some _, some _ =>
    [⟨.warn, "<id> and <composite-id> on the same class, composite key ignored",
      [("document", document)]⟩]
  | none, some key =>
    if key.children.any fun e => (ComponentKind.ofTag? e.name).isSome then []
    else [⟨.warn, "<composite-id> without key components, entity has no identifier",
      [("document", document)]⟩]
  | _, none => []

theorem KeyComponent.read?_eq_ok {package : Option String} {e : Element} {notices : List Notice}
    {result : Option KeyComponent} (h : KeyComponent.read? package e = ⟨notices, .ok result⟩) :
    notices = [] ∧ result.isSome = (ComponentKind.ofTag? e.name).isSome := by
  unfold KeyComponent.read? at h
  cases htag : ComponentKind.ofTag? e.name with
  | none =>
    simp only [htag] at h
    obtain ⟨rfl, rfl⟩ := pure_eq_ok_iff.mp h
    exact ⟨rfl, rfl⟩
  | some kind =>
    simp only [htag, bind_eq_ok_iff, required_eq_ok_iff, requiredType_eq_ok_iff,
      pure_eq_ok_iff] at h
    obtain ⟨_, _, _, ⟨rfl, -⟩, ⟨_, _, _, ⟨rfl, -⟩, ⟨rfl, rfl⟩, rfl⟩, rfl⟩ := h
    exact ⟨rfl, rfl⟩

theorem KeyComponent.collect_eq_ok {package : Option String} {es : List Element}
    {notices : List Notice} {components : List KeyComponent}
    (h : Reading.collect (KeyComponent.read? package) es = ⟨notices, .ok components⟩) :
    notices = [] ∧
      (components ≠ [] ↔ es.any (fun e => (ComponentKind.ofTag? e.name).isSome) = true) := by
  induction es generalizing notices components with
  | nil =>
    obtain ⟨rfl, rfl⟩ := pure_eq_ok_iff.mp h
    simp
  | cons e es ih =>
    simp only [Reading.collect, bind_eq_ok_iff, pure_eq_ok_iff] at h
    obtain ⟨_, first, _, hfirst, ⟨_, rest, _, hrest, ⟨rfl, rfl⟩, rfl⟩, rfl⟩ := h
    obtain ⟨rfl, hsome⟩ := KeyComponent.read?_eq_ok hfirst
    obtain ⟨rfl, hiff⟩ := ih hrest
    refine ⟨rfl, ?_⟩
    rw [List.any_cons, ← hsome, Bool.or_eq_true, ← hiff]
    cases first <;> simp

theorem SimpleKey.notices_eq_nil {package : Option String} {e : Element} {notices : List Notice}
    {key : SimpleKey} (h : SimpleKey.read package e = ⟨notices, .ok key⟩) : notices = [] := by
  simp only [SimpleKey.read, bind_eq_ok_iff, required_eq_ok_iff, requiredType_eq_ok_iff,
    pure_eq_ok_iff] at h
  obtain ⟨_, _, _, ⟨rfl, -⟩, ⟨_, _, _, ⟨rfl, -⟩, ⟨_, _, _, ⟨rfl, -⟩, ⟨rfl, -⟩, rfl⟩, rfl⟩, rfl⟩ := h
  rfl

theorem Key.ofComponents_eq_ok {components : List KeyComponent} {notices : List Notice}
    {key? : Option Key} (h : Key.ofComponents components = ⟨notices, .ok key?⟩) :
    notices = if components ≠ [] then [] else [.emptyCompositeKey] := by
  unfold Key.ofComponents at h
  split at h
  · next hcomponents => rw [if_pos hcomponents, (pure_eq_ok_iff.mp h).1]
  · next hcomponents => rw [if_neg hcomponents, (skip_eq_ok_iff.mp h).1]

theorem map_toLine_of_key_read {document : String} {package : Option String} {c : Element}
    {notices : List Notice} {key? : Option Key}
    (h : Key.read package c = ⟨notices, .ok key?⟩) :
    notices.map (·.toLine document) = keyLines document c := by
  unfold Key.read at h
  unfold keyLines
  cases hid : c.child? "id" with
  | some id =>
    cases hcomposite : c.child? "composite-id" with
    | none =>
      simp only [hid, hcomposite, Option.isSome_none, Bool.false_eq_true, if_false,
        bind_eq_ok_iff, pure_eq_ok_iff] at h
      obtain ⟨_, key, _, hkey, ⟨rfl, -⟩, rfl⟩ := h
      rw [SimpleKey.notices_eq_nil hkey]
      rfl
    | some ignored =>
      simp only [hid, hcomposite, Option.isSome_some, if_true, bind_eq_ok_iff, notice_eq_ok_iff,
        pure_eq_ok_iff] at h
      obtain ⟨_, _, _, rfl, ⟨_, key, _, hkey, ⟨rfl, -⟩, rfl⟩, rfl⟩ := h
      rw [SimpleKey.notices_eq_nil hkey]
      rfl
  | none =>
    cases hcomposite : c.child? "composite-id" with
    | none =>
      simp only [hid, hcomposite] at h
      rw [(pure_eq_ok_iff.mp h).1]
      rfl
    | some key =>
      simp only [hid, hcomposite, bind_eq_ok_iff] at h
      obtain ⟨_, components, _, hcomponents, hkey, rfl⟩ := h
      obtain ⟨rfl, hne⟩ := KeyComponent.collect_eq_ok hcomponents
      rw [List.nil_append, Key.ofComponents_eq_ok hkey, if_congr hne rfl rfl]
      exact apply_ite _ _ _ _

/-! ## Classes -/

/-- The classes declared among some elements, with the kind of their declaration. -/
def derivedAmong (es : List Element) : List (EntityKind × Element) :=
  es.filterMap fun e => (EntityKind.ofTag? e.name).map fun kind => (kind, e)

mutual

/-- The class `c`, declared as `kind`, is read as the entity with all its members kept or warned
about, and so are the classes derived from it. The lines given on the way are the warnings, and
those about keys. -/
inductive ReadAs (document : String) (package : Option String) :
    EntityKind → Element → Entity → List Log.Line → Prop
  | intro {kind : EntityKind} {c : Element} {entity : Entity}
      {propertyLines manyToOneLines setLines derivedLines : List Log.Line}
      (hkind : entity.kind = kind) (hname : c.attr? "name" = some entity.name)
      (hproperties : propertyRule.Accounted document package
        (c.childrenNamed propertyRule.tag) entity.properties propertyLines)
      (hmanyToOnes : manyToOneRule.Accounted document package
        (c.childrenNamed manyToOneRule.tag) entity.manyToOnes manyToOneLines)
      (hsets : setRule.Accounted document package
        (c.childrenNamed setRule.tag) entity.sets setLines)
      (hderived : AllReadAs document package (derivedAmong c.children) entity.derived
        derivedLines) :
      ReadAs document package kind c entity
        (keyLines document c ++ (propertyLines ++ (manyToOneLines ++ (setLines ++ derivedLines))))

/-- Several classes are read as several entities, one for each in the same order. -/
inductive AllReadAs (document : String) (package : Option String) :
    List (EntityKind × Element) → List Entity → List Log.Line → Prop
  | nil : AllReadAs document package [] [] []
  | cons {kind : EntityKind} {c : Element} {entity : Entity} {lines : List Log.Line}
      {cs : List (EntityKind × Element)} {entities : List Entity} {more : List Log.Line}
      (hfirst : ReadAs document package kind c entity lines)
      (hrest : AllReadAs document package cs entities more) :
      AllReadAs document package ((kind, c) :: cs) (entity :: entities) (lines ++ more)

end

variable {document : String} {package : Option String} {notices : List Notice}

mutual

theorem Entity.readAs {kind : EntityKind} {entity : Entity} {notices : List Notice} :
    (c : Element) → Entity.read package kind c = ⟨notices, .ok entity⟩ →
      ReadAs document package kind c entity (notices.map (·.toLine document))
  | .mk tag attributes children, h => by
    simp only [Entity.read, bind_eq_ok_iff, required_eq_ok_iff, pure_eq_ok_iff] at h
    obtain ⟨_, name, _, ⟨rfl, hname⟩, h, rfl⟩ := h
    obtain ⟨_, key?, _, hkey, h, rfl⟩ := h
    obtain ⟨_, properties, _, hproperties, h, rfl⟩ := h
    obtain ⟨_, manyToOnes, _, hmanyToOnes, h, rfl⟩ := h
    obtain ⟨_, sets, _, hsets, h, rfl⟩ := h
    obtain ⟨_, derived, _, hderived, ⟨rfl, rfl⟩, rfl⟩ := h
    simp only [List.append_nil, List.map_append, map_toLine_of_key_read hkey]
    exact .intro rfl hname ((propertyRule_followedBy document package).accounted hproperties)
      ((manyToOneRule_followedBy document package).accounted hmanyToOnes)
      ((setRule_followedBy document package).accounted hsets)
      (Entity.allReadAs children hderived)

theorem Entity.allReadAs {entities : List Entity} {notices : List Notice} :
    (es : List Element) → Entity.readDerived package es = ⟨notices, .ok entities⟩ →
      AllReadAs document package (derivedAmong es) entities (notices.map (·.toLine document))
  | [], h => by
    obtain ⟨rfl, rfl⟩ := pure_eq_ok_iff.mp h
    exact .nil
  | e :: es, h => by
    unfold Entity.readDerived at h
    cases htag : EntityKind.ofTag? e.name with
    | none =>
      simp only [htag] at h
      have hskip : derivedAmong (e :: es) = derivedAmong es :=
        List.filterMap_cons_none (by rw [htag]; rfl)
      rw [hskip]
      exact Entity.allReadAs es h
    | some kind =>
      simp only [htag, bind_eq_ok_iff, pure_eq_ok_iff] at h
      obtain ⟨_, first, _, hfirst, ⟨_, rest, _, hrest, ⟨rfl, rfl⟩, rfl⟩, rfl⟩ := h
      have hnext : derivedAmong (e :: es) = (kind, e) :: derivedAmong es :=
        List.filterMap_cons_some (by rw [htag]; rfl)
      rw [hnext, List.append_nil, List.map_append]
      exact .cons (Entity.readAs e hfirst) (Entity.allReadAs es hrest)

end

theorem Resource.allReadAs {es : List Element} {entities : List Entity} {notices : List Notice}
    (h : Resource.readEntities package es = ⟨notices, .ok entities⟩) :
    AllReadAs document package (es.map fun c => (.root, c)) entities
      (notices.map (·.toLine document)) := by
  unfold Resource.readEntities at h
  induction es generalizing entities notices with
  | nil =>
    obtain ⟨rfl, rfl⟩ := pure_eq_ok_iff.mp h
    exact .nil
  | cons c es ih =>
    simp only [Reading.collect, bind_eq_ok_iff, pure_eq_ok_iff] at h
    obtain ⟨_, _, _, ⟨_, first, _, hfirst, ⟨rfl, rfl⟩, rfl⟩, ⟨_, rest, _, hrest, ⟨rfl, rfl⟩, rfl⟩,
      rfl⟩ := h
    rw [List.append_nil, List.append_nil, List.map_append]
    exact .cons (Entity.readAs c hfirst) (ih hrest)

/-! ## All classes of a document -/

theorem AllReadAs.exists_of_mem {cs : List (EntityKind × Element)} {entities : List Entity}
    {lines : List Log.Line} (h : AllReadAs document package cs entities lines)
    {kind : EntityKind} {c : Element} (hc : (kind, c) ∈ cs) :
    ∃ e ∈ entities, ∃ own, ReadAs document package kind c e own ∧ own <:+: lines := by
  induction cs generalizing entities lines with
  | nil => exact absurd hc List.not_mem_nil
  | cons first cs ih =>
    cases h with
    | cons hfirst hrest =>
      rcases List.mem_cons.mp hc with heq | hmem
      · cases heq
        exact ⟨_, List.mem_cons_self, _, hfirst, (List.prefix_append _ _).isInfix⟩
      · obtain ⟨e, he, own, hread, hown⟩ := ih hrest hmem
        exact ⟨e, List.mem_cons_of_mem _ he, own, hread,
          hown.trans (List.suffix_append _ _).isInfix⟩

theorem ReadAs.exists_of_derived {kind : EntityKind} {c d : Element} {entity : Entity}
    {lines : List Log.Line} (h : ReadAs document package kind c entity lines)
    (hd : d ∈ c.children) (htag : d.name = "subclass" ∨ d.name = "union-subclass") :
    ∃ kind, ∃ e ∈ entity.derived, ∃ own, ReadAs document package kind d e own ∧
      own <:+: lines := by
  obtain ⟨kind', hkind⟩ := Option.isSome_iff_exists.mp (EntityKind.isSome_ofTag?_iff.mpr htag)
  have hmem : (kind', d) ∈ derivedAmong c.children :=
    List.mem_filterMap.mpr ⟨d, hd, by rw [hkind]; rfl⟩
  cases h with
  | intro _ _ _ _ _ hderived =>
    obtain ⟨e, he, own, hread, hown⟩ := hderived.exists_of_mem hmem
    refine ⟨kind', e, he, own, hread, hown.trans ?_⟩
    simp only [← List.append_assoc]
    exact (List.suffix_append _ _).isInfix

/-- Every class of the document, however deep, has an entity. -/
theorem AllReadAs.exists_of_classShaped {root c : Element} {entities : List Entity}
    {lines : List Log.Line}
    (h : AllReadAs document package ((root.childrenNamed "class").map fun c => (.root, c))
      entities lines) (hc : ClassShaped root c) :
    ∃ kind e above own, NestedIn entities e above ∧ ReadAs document package kind c e own ∧
      own <:+: lines := by
  induction hc with
  | @top c hc =>
    obtain ⟨e, he, own, hread, hown⟩ := h.exists_of_mem (List.mem_map_of_mem hc)
    exact ⟨.root, e, [], own, .root he, hread, hown⟩
  | derived _ hd htag ih =>
    obtain ⟨_, parent, above, outer, hnested, hread, houter⟩ := ih
    obtain ⟨kind, e, he, own, hread, hown⟩ := hread.exists_of_derived hd htag
    exact ⟨kind, e, parent :: above, own, .derived hnested he, hread, hown.trans houter⟩

/-- Of a mapping document that is read, no member is dropped silently. Its classes are read as its
entities, class by class and each with the classes derived from it, and every child of a class that
declares a member is either kept in the list of its kind, in order and under its accessor name, or
named in one warning of its own. -/
theorem Resource.members_kept_or_warned_about {path : String} {root : Element} {r : Resource}
    (h : (Resource.read path root).outcome = .ok r) :
    let lines := (Resource.read path root).notices.map (·.toLine path)
    r.path = path ∧ r.package = root.attr? "package" ∧
      AllReadAs path r.package ((root.childrenNamed "class").map fun c => (.root, c)) r.entities
        lines ∧
      ∀ c, ClassShaped root c → ∃ kind e above own, NestedIn r.entities e above ∧
        ReadAs path r.package kind c e own ∧ own <:+: lines := by
  have hread := Reading.eq_ok h
  generalize (Resource.read path root).notices = notices at hread ⊢
  intro lines
  simp only [Resource.read, bind_eq_ok_iff, pure_eq_ok_iff] at hread
  obtain ⟨_, entities, _, hentities, ⟨rfl, rfl⟩, rfl⟩ := hread
  have hall : AllReadAs path (root.attr? "package")
      ((root.childrenNamed "class").map fun c => (.root, c)) entities lines := by
    simp only [lines, List.append_nil]
    exact Resource.allReadAs hentities
  exact ⟨rfl, rfl, hall, fun c hc => hall.exists_of_classShaped hc⟩

/-! ### A class with members that cannot be generated -/

/-- An attribute without a prefix. -/
def plainAttribute (name value : String) : Xml.Attribute :=
  ⟨none, name, value⟩

/-- A class with one property that is kept and one without a type, and with an association and a set
that are left out. The class is derived from another one, after a class that has no members. -/
def boat : Element :=
  .mk "union-subclass" [plainAttribute "name" "Boat"] [
    .mk "property" [plainAttribute "name" "draught"] [],
    .mk "property" [plainAttribute "name" "length", plainAttribute "type" "Integer",
      plainAttribute "column" "length"] [],
    .mk "many-to-one" [plainAttribute "name" "harbour", plainAttribute "class" "Harbour"] [],
    .mk "set" [plainAttribute "name" "crew"] []]

/-- A class from which two others are derived. -/
def vehicle : Element :=
  .mk "class" [plainAttribute "name" "Vehicle"] [
    .mk "subclass" [plainAttribute "name" "Cart"] [],
    boat]

/-- An entity without a key and members. -/
def bareEntity (kind : EntityKind) (name : String) (derived : List Entity) : Entity where
  kind
  name
  type := ⟨name⟩
  isAbstract := false
  key? := none
  properties := []
  manyToOnes := []
  sets := []
  derived

/-- The entities of the three classes. -/
def vehicleEntity : Entity :=
  bareEntity .root "Vehicle" [
    bareEntity .subclass "Cart" [],
    { bareEntity .unionSubclass "Boat" [] with
      properties := [⟨"Length", ⟨"Integer"⟩, .column "length"⟩] }]

theorem members_kept_or_warned_about_vehicle :
    (Resource.read "Fleet.hbm.xml" (.mk "hibernate-mapping" [] [vehicle])).outcome =
        .ok ⟨"Fleet.hbm.xml", none, [vehicleEntity]⟩ ∧
      AllReadAs "Fleet.hbm.xml" none [(.root, vehicle)] [vehicleEntity] [
        ⟨.warn, "property without type, skipped",
          [("document", "Fleet.hbm.xml"), ("property", "Draught")]⟩,
        ⟨.warn, "many-to-one with neither column nor formula, skipped",
          [("document", "Fleet.hbm.xml"), ("association", "Harbour")]⟩,
        ⟨.warn, "unknown type of set, skipped",
          [("document", "Fleet.hbm.xml"), ("collection", "Crew")]⟩] := by
  have hread : (Resource.read "Fleet.hbm.xml" (.mk "hibernate-mapping" [] [vehicle])).outcome =
      .ok ⟨"Fleet.hbm.xml", none, [vehicleEntity]⟩ := rfl
  obtain ⟨-, -, hall, -⟩ := Resource.members_kept_or_warned_about hread
  exact ⟨hread, hall⟩

end EntityScaffold.Mapping
