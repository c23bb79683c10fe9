import Mathlib.Data.List.Nodup
import EntityScaffold.Proofs.PropertyNames

/-!
# Names declared in a base class

A base class has a field for each member of its entity and a constant for each column that holds an
identifier or a property. The fields are called like the members, with a capital, and the constants
like the columns, in upper case (`Mapping.DeclaresNames`). So it takes more than different names for
them to differ: members whose names have one form with a capital share a field name, and columns
with one form in upper case share a constant, however many members there are. Nothing else is
declared twice, since a field never has the name of a constant (`declared_names_of_entity`).
-/

namespace EntityScaffold

open Java (Field)
open Mapping (Entity)
open Text (Occurs upperAll)
open Xml (Element)

namespace Java

/-! ## Fields of a class -/

/-- The field that a member is, if it is one. -/
def Member.field? : Member → Option Field
  | .field f => some f
  | .method _ => none

/-- The fields of a class, constants included. -/
def ClassDeclaration.fields (c : ClassDeclaration) : List Field :=
  c.members.filterMap Member.field?

/-- The names of the fields of a class. -/
def ClassDeclaration.fieldNames (c : ClassDeclaration) : List String :=
  c.fields.map (·.name)

theorem ClassDeclaration.mem_of_mem_fields {c : ClassDeclaration} {f : Field} (hf : f ∈ c.fields) :
    .field f ∈ c.members := by
  obtain ⟨member, hmember, hfield⟩ := List.mem_filterMap.mp hf
  cases member with
  | field g =>
    cases hfield
    exact hmember
  | method m => cases hfield

end Java

namespace Mapping

open Reading

variable {package : Option String} {c : Element} {e : Entity} {root : Element}

/-! ## Names of members -/

/-- The elements that declare the key of a class: its identifier, or else the components of its
first composite key. -/
def keyElements (c : Element) : List Element :=
  match c.child? "id", c.child? "composite-id" with
  | some id, _ => [id]
  | none, some key => key.children.filter fun d => (ComponentKind.ofTag? d.name).isSome
  | none, none => []

/-- The elements that declare the members of a class, without those that are left out. -/
def memberElements (c : Element) : List Element :=
  keyElements c ++ (c.childrenNamed "property").filter propertyRule.usable ++
    (c.childrenNamed "many-to-one").filter manyToOneRule.usable ++
    (c.childrenNamed "set").filter setRule.usable

/-- The names that some elements have. -/
def namesOf (ds : List Element) : List String :=
  ds.filterMap (·.attr? "name")

/-- The names of the members of a class. -/
def memberNames (c : Element) : List String :=
  namesOf (memberElements c)

theorem namesOf_append (ds es : List Element) : namesOf (ds ++ es) = namesOf ds ++ namesOf es :=
  List.filterMap_append

theorem namesOf_cons {d : Element} {name : String} (h : d.attr? "name" = some name)
    (ds : List Element) : namesOf (d :: ds) = name :: namesOf ds :=
  List.filterMap_cons_some h

/-- Members that are declared by some elements have the names of these. -/
theorem map_eq_namesOf {α : Type} (nameOf : α → String) {R : Element → α → Prop}
    (hR : ∀ d a, R d a → ∃ name, d.attr? "name" = some name ∧ nameOf a = accessorName name)
    {ds : List Element} {members : List α} (h : List.Forall₂ R ds members) :
    members.map nameOf = (namesOf ds).map accessorName := by
  induction h with
  | nil => rfl
  | cons hfirst _ ih =>
    obtain ⟨name, hname, haccessor⟩ := hR _ _ hfirst
    rw [List.map_cons, haccessor, ih, namesOf_cons hname, List.map_cons]

theorem KeyComponent.map_name_of_collect {es : List Element} {notices : List Notice}
    {components : List KeyComponent}
    (h : Reading.collect (KeyComponent.read? package) es = ⟨notices, .ok components⟩) :
    components.map (·.name) =
      (namesOf (es.filter fun d => (ComponentKind.ofTag? d.name).isSome)).map accessorName := by
  induction es generalizing notices components with
  | nil =>
    obtain ⟨-, rfl⟩ := pure_eq_ok_iff.mp h
    rfl
  | cons d es ih =>
    simp only [Reading.collect, bind_eq_ok_iff, pure_eq_ok_iff] at h
    obtain ⟨_, first, _, hfirst, ⟨_, rest, _, hrest, ⟨-, rfl⟩, -⟩, -⟩ := h
    rw [List.map_append, ih hrest]
    unfold KeyComponent.read? at hfirst
    cases htag : ComponentKind.ofTag? d.name with
    | none =>
      simp only [htag] at hfirst
      obtain ⟨-, rfl⟩ := pure_eq_ok_iff.mp hfirst
      rw [List.filter_cons_of_neg (by simp [htag])]
      rfl
    | some kind =>
      simp only [htag, bind_eq_ok_iff, required_eq_ok_iff, pure_eq_ok_iff] at hfirst
      obtain ⟨_, name, _, ⟨-, hname⟩, ⟨_, _, _, -, ⟨-, rfl⟩, -⟩, -⟩ := hfirst
      rw [List.filter_cons_of_pos (by simp [htag]), namesOf_cons hname]
      rfl

/-- The key of an entity has the names of the elements that declare it. -/
theorem ReadFrom.keyNames (h : ReadFrom package c e) :
    e.simpleKey?.toList.map (·.name) ++ e.keyComponents.map (·.name) =
      (namesOf (keyElements c)).map accessorName := by
  unfold keyElements
  cases hid : c.child? "id" with
  | some id =>
    obtain ⟨key, name, hkey, hname, haccessor, -⟩ := h.simpleKey?_of_id hid
    have hown : e.key? = some (.simple key) := Entity.simpleKey?_eq_some_iff.mp hkey
    simp [namesOf, hkey, hname, haccessor, Entity.keyComponents, Entity.compositeKey?, hown]
  | none =>
    obtain ⟨notices, hread⟩ := h.key_read
    rw [h.simpleKey?_of_no_id hid]
    cases hcomposite : c.child? "composite-id" with
    | none =>
      simp only [Key.read, hid, hcomposite, pure_eq_ok_iff] at hread
      simp [namesOf, Entity.keyComponents, Entity.compositeKey?, hread.2]
    | some key =>
      simp only [Key.read, hid, hcomposite, bind_eq_ok_iff] at hread
      obtain ⟨_, components, _, hcomponents, hkey, -⟩ := hread
      have hnames := KeyComponent.map_name_of_collect hcomponents
      have hown : e.keyComponents = components := by
        unfold Key.ofComponents at hkey
        split at hkey
        · rw [Entity.keyComponents, Entity.compositeKey?, (pure_eq_ok_iff.mp hkey).2]
          rfl
        · next hempty =>
          rw [Entity.keyComponents, Entity.compositeKey?, (skip_eq_ok_iff.mp hkey).2]
          exact (not_not.mp hempty).symm
      rw [hown, hnames]
      rfl

/-- The fields of an entity are called like the members of its class. -/
theorem Entity.map_name_fields {kind : EntityKind} {notices : List Notice}
    (h : Entity.read package kind c = ⟨notices, .ok e⟩) :
    (Scaffold.fields e).map (·.name) = (memberNames c).map accessorName := by
  have hkey := (Entity.readFrom h).keyNames
  obtain ⟨lines, hreadAs⟩ : ∃ lines, ReadAs "" package kind c e lines := ⟨_, Entity.readAs c h⟩
  cases hreadAs with
  | intro _ _ hproperties hmanyToOnes hsets _ =>
    have hpropertyNames := map_eq_namesOf Property.name
      (fun _ _ ⟨name, _, hname, haccessor, _⟩ => ⟨name, hname, haccessor⟩) hproperties.kept
    have hmanyToOneNames := map_eq_namesOf ManyToOne.name
      (fun _ _ ⟨name, _, hname, haccessor, _⟩ => ⟨name, hname, haccessor⟩) hmanyToOnes.kept
    have hsetNames := map_eq_namesOf SetMember.name
      (fun _ _ ⟨name, _, _, hname, haccessor, _⟩ => ⟨name, hname, haccessor⟩) hsets.kept
    have hfields : (Scaffold.fields e).map (·.name) =
        e.simpleKey?.toList.map (·.name) ++ e.keyComponents.map (·.name) ++
          e.properties.map (·.name) ++ (e.manyToOnes.map (·.name) ++ e.sets.map (·.name)) := by
      unfold Scaffold.fields Scaffold.scalarFields Scaffold.associationFields
      simp only [List.map_append, List.map_map]
      rfl
    rw [hfields, hkey, hpropertyNames, hmanyToOneNames, hsetNames, ← List.append_assoc]
    simp only [memberNames, memberElements, namesOf_append, List.map_append]
    rfl

/-! ## Classes of entities -/

theorem exists_read_of_mem_derived {es : List Element} {entities : List Entity}
    {notices : List Notice} (h : Entity.readDerived package es = ⟨notices, .ok entities⟩)
    (he : e ∈ entities) :
    ∃ d ∈ es, (d.name = "subclass" ∨ d.name = "union-subclass") ∧
      ∃ kind notices, Entity.read package kind d = ⟨notices, .ok e⟩ := by
  induction es generalizing entities notices with
  | nil =>
    obtain ⟨-, rfl⟩ := pure_eq_ok_iff.mp h
    exact absurd he List.not_mem_nil
  | cons d es ih =>
    unfold Entity.readDerived at h
    cases hkind : EntityKind.ofTag? d.name with
    | none =>
      rw [hkind] at h
      obtain ⟨d', hd', hread⟩ := ih h he
      exact ⟨d', List.mem_cons_of_mem _ hd', hread⟩
    | some kind =>
      simp only [hkind, bind_eq_ok_iff, pure_eq_ok_iff] at h
      obtain ⟨_, first, _, hfirst, ⟨_, rest, _, hrest, ⟨-, rfl⟩, -⟩, -⟩ := h
      rcases List.mem_cons.mp he with rfl | he
      · have htag := EntityKind.isSome_ofTag?_iff.mp (by rw [hkind]; rfl)
        exact ⟨d, List.mem_cons_self, htag, kind, _, hfirst⟩
      · obtain ⟨d', hd', hread⟩ := ih hrest he
        exact ⟨d', List.mem_cons_of_mem _ hd', hread⟩

theorem exists_read_of_mem_entities {es : List Element} {entities : List Entity}
    {notices : List Notice} (h : Resource.readEntities package es = ⟨notices, .ok entities⟩)
    (he : e ∈ entities) :
    ∃ c ∈ es, ∃ notices, Entity.read package .root c = ⟨notices, .ok e⟩ := by
  unfold Resource.readEntities at h
  induction es generalizing entities notices with
  | nil =>
    obtain ⟨-, rfl⟩ := pure_eq_ok_iff.mp h
    exact absurd he List.not_mem_nil
  | cons c es ih =>
    simp only [Reading.collect, bind_eq_ok_iff, pure_eq_ok_iff] at h
    obtain ⟨_, _, _, ⟨_, first, _, hfirst, ⟨-, rfl⟩, -⟩, ⟨_, rest, _, hrest, ⟨-, rfl⟩, -⟩, -⟩ := h
    rcases List.mem_cons.mp he with rfl | he
    · exact ⟨c, List.mem_cons_self, _, hfirst⟩
    · obtain ⟨c', hc', hread⟩ := ih hrest he
      exact ⟨c', List.mem_cons_of_mem _ hc', hread⟩

/-- Every entity of a document is read from a class of the document. -/
theorem exists_class_of_nestedIn {path : String} {r : Resource} {above : List Entity}
    (hread : (Resource.read path root).outcome = .ok r) (he : NestedIn r.entities e above) :
    ∃ c kind notices, ClassShaped root c ∧
      Entity.read (root.attr? "package") kind c = ⟨notices, .ok e⟩ := by
  have hresource := eq_ok hread
  simp only [Resource.read, bind_eq_ok_iff, pure_eq_ok_iff] at hresource
  obtain ⟨_, entities, _, hentities, ⟨-, rfl⟩, -⟩ := hresource
  induction he with
  | root he =>
    obtain ⟨c, hc, notices, hread⟩ := exists_read_of_mem_entities hentities he
    exact ⟨c, .root, notices, .top hc, hread⟩
  | derived _ he ih =>
    obtain ⟨c, _, _, hc, hread⟩ := ih
    obtain ⟨_, hderived⟩ := (Entity.readFrom hread).derived_read
    obtain ⟨d, hd, htag, kind, notices, hread⟩ := exists_read_of_mem_derived hderived he
    exact ⟨d, kind, notices, .derived hc hd htag, hread⟩

end Mapping

namespace Scaffold

open Mapping

variable {s : Scaffold} {c : Element}

/-! ## Names of fields and constants -/

theorem fields_baseClass (s : Scaffold) : s.baseClass.fields = s.baseFields := by
  have hmethods : (s.baseMethods.map Java.Member.method).filterMap Java.Member.field? = [] := by
    rw [List.filterMap_map]
    exact List.filterMap_eq_nil_iff.mpr fun _ _ => rfl
  rw [Java.ClassDeclaration.fields, members_baseClass, List.filterMap_append, hmethods,
    List.append_nil, List.filterMap_map]
  exact List.filterMap_some

theorem fieldNames_baseClass (s : Scaffold) : s.baseClass.fieldNames =
    storedVersion.name :: ((fields s.entity).map (·.name)).map fieldName ++
      (nameConstants s.entity).map (·.name) := by
  rw [Java.ClassDeclaration.fieldNames, fields_baseClass, baseFields, List.map_append,
    List.map_cons, List.map_map, List.map_map]
  rfl

theorem head?_fieldName (name : String) : (fieldName name).toList.head? = some 'i' := by
  simp [fieldName]

theorem head?_constant (name : String) : ("PROP_" ++ name).toList.head? = some 'P' := by
  simp

/-- Fields of members, constants and the version of the stored form are told apart by the first
characters of their names. -/
theorem nodup_declared_iff {names columns : List String} :
    (storedVersion.name :: names.map fieldName ++ columns.map ("PROP_" ++ ·)).Nodup ↔
      names.Nodup ∧ columns.Nodup := by
  have hfields : Function.Injective fieldName := fun _ _ h => (String.append_right_inj _).mp h
  have hconstants : Function.Injective ("PROP_" ++ · : String → String) := fun _ _ h =>
    (String.append_right_inj _).mp h
  have hversion : storedVersion.name.toList.head? = some 's' := rfl
  rw [List.nodup_append, List.nodup_cons, List.nodup_map_iff hfields, List.nodup_map_iff hconstants]
  constructor
  · rintro ⟨⟨-, hnames⟩, hcolumns, -⟩
    exact ⟨hnames, hcolumns⟩
  · rintro ⟨hnames, hcolumns⟩
    refine ⟨⟨fun hmem => ?_, hnames⟩, hcolumns, ?_⟩
    · obtain ⟨name, -, hname⟩ := List.mem_map.mp hmem
      have hhead := head?_fieldName name
      rw [hname, hversion] at hhead
      exact absurd hhead (by decide)
    · rintro field hfield _ hconstant rfl
      obtain ⟨column, -, rfl⟩ := List.mem_map.mp hconstant
      have hhead := head?_constant column
      rcases List.mem_cons.mp hfield with hfield | hfield
      · rw [hfield, hversion] at hhead
        exact absurd hhead (by decide)
      · obtain ⟨name, -, hname⟩ := List.mem_map.mp hfield
        rw [← hname, head?_fieldName] at hhead
        exact absurd hhead (by decide)

end Scaffold

namespace Mapping

/-! ## Base classes of a document -/

/-- What the base class of an entity declares besides methods, where the entity is read from the
class `c`. -/
structure DeclaresNames (c : Element) (s : Scaffold) (header? : Option String) : Prop where
  names_eq : s.baseClass.fieldNames = Scaffold.storedVersion.name ::
    ((memberNames c).map accessorName).map Scaffold.fieldName ++
      ((namedColumns c).map fun (column, _) => upperAll column).map ("PROP_" ++ ·)
  occurs : ∀ f ∈ s.baseClass.fields, Occurs f.render (s.artifact header? .base).contents
  /-- Nothing is declared twice exactly if the names of the members differ with a capital and the
  columns in upper case. -/
  nodup_iff : s.baseClass.fieldNames.Nodup ↔ ((memberNames c).map accessorName).Nodup ∧
    ((namedColumns c).map fun (column, _) => upperAll column).Nodup

theorem Entity.declaresNames {package : Option String} {kind : EntityKind} {notices : List Notice}
    {c : Element} {s : Scaffold} (h : Entity.read package kind c = ⟨notices, .ok s.entity⟩)
    (header? : Option String) : DeclaresNames c s header? := by
  have hconstants : (Scaffold.nameConstants s.entity).map (·.name) =
      ((namedColumns c).map fun (column, _) => upperAll column).map ("PROP_" ++ ·) := by
    rw [(Entity.readFrom h).nameConstants_eq, List.map_map, List.map_map]
    rfl
  have hnames : s.baseClass.fieldNames = _ := s.fieldNames_baseClass
  rw [Entity.map_name_fields h, hconstants] at hnames
  refine ⟨hnames, fun f hf => ?_, ?_⟩
  · exact (Java.occurs_member (Java.ClassDeclaration.mem_of_mem_fields hf)).trans
      (s.occurs_artifact header? .base)
  · rw [hnames]
    exact Scaffold.nodup_declared_iff

/-- Every entity of a document is read from a class of it, and nothing but this class decides which
fields and constants the base class of the entity declares. They have different names exactly if the
members of the class have different names with a capital, and the columns of its identifier and its
properties are different in upper case. -/
theorem declared_names_of_entity {path : String} {root : Element} {r : Resource}
    (hread : (Resource.read path root).outcome = .ok r) {p : Placed} (hp : p ∈ r.placed) :
    ∃ c kind, ClassShaped root c ∧
      (Entity.read (root.attr? "package") kind c).outcome = .ok p.entity ∧
      ∀ h shown header?, DeclaresNames c (Scaffold.ofPlaced h shown p) header? := by
  obtain ⟨c, kind, notices, hc, hentity⟩ := exists_class_of_nestedIn hread (mem_placedAll_iff.mp hp)
  refine ⟨c, kind, hc, by rw [hentity], fun h shown header? => ?_⟩
  exact Entity.declaresNames (s := Scaffold.ofPlaced h shown p) hentity header?

/-! ### Members of four kinds -/

/-- A class with an identifier, a property, an association and a set. -/
def balconyClass : Element :=
  .mk "class" [plainAttribute "name" "Balcony"] [
    .mk "id" [plainAttribute "name" "code", plainAttribute "type" "Long",
      plainAttribute "column" "code"] [],
    .mk "property" [plainAttribute "name" "seats", plainAttribute "type" "Integer",
      plainAttribute "column" "seat_count"] [],
    .mk "many-to-one" [plainAttribute "name" "place", plainAttribute "class" "Theatre",
      plainAttribute "column" "place"] [],
    .mk "set" [plainAttribute "name" "rows"] [
      .mk "one-to-many" [plainAttribute "class" "Row"] []]]

/-- The entity as which the class is read. -/
def balconyEntity : Entity :=
  { bareEntity .root "Balcony" [] with
    key? := some (.simple ⟨"Code", ⟨"Long"⟩, "code"⟩)
    properties := [⟨"Seats", ⟨"Integer"⟩, .column "seat_count"⟩]
    manyToOnes := [⟨"Place", ⟨"Theatre"⟩, .column "place"⟩]
    sets := [⟨"Rows", .oneToMany, ⟨"Row"⟩⟩] }

theorem classShaped_balcony {c : Element}
    (hc : ClassShaped (.mk "hibernate-mapping" [] [balconyClass]) c) : c = balconyClass := by
  induction hc with
  | top hc => exact List.mem_singleton.mp hc
  | derived _ hd htag ih =>
    subst ih
    have hnone : ∀ d ∈ balconyClass.children,
        ¬ (d.name = "subclass" ∨ d.name = "union-subclass") := by
      simp [balconyClass, Element.children, Element.name]
    exact absurd htag (hnone _ hd)

theorem declared_names_of_entity_balcony :
    (Resource.read "Balcony.hbm.xml" (.mk "hibernate-mapping" [] [balconyClass])).outcome =
        .ok ⟨"Balcony.hbm.xml", none, [balconyEntity]⟩ ∧
      let s := Scaffold.ofPlaced .empty .empty ⟨balconyEntity, []⟩
      s.baseClass.fieldNames = ["serialVersionUID", "iCode", "iSeats", "iPlace", "iRows", "PROP_CODE",
        "PROP_SEAT_COUNT"] ∧ s.baseClass.fieldNames.Nodup := by
  have hread : (Resource.read "Balcony.hbm.xml" (.mk "hibernate-mapping" [] [balconyClass])).outcome =
      .ok ⟨"Balcony.hbm.xml", none, [balconyEntity]⟩ := rfl
  have hp : (⟨balconyEntity, []⟩ : Placed) ∈
      (⟨"Balcony.hbm.xml", none, [balconyEntity]⟩ : Resource).placed := List.mem_cons_self
  obtain ⟨c, _, hc, -, hnames⟩ := declared_names_of_entity hread hp
  obtain rfl := classShaped_balcony hc
  obtain ⟨hnames, -, hnodup⟩ := hnames .empty .empty none
  refine ⟨hread, ?_, hnodup.mpr (by decide +kernel)⟩
  rw [hnames]
  decide +kernel

/-! ### Names and columns that are alike -/

/-- A class with two names that differ in the case of their first character. -/
def arenaClass : Element :=
  .mk "class" [plainAttribute "name" "Arena"] [
    .mk "property" [plainAttribute "name" "seats", plainAttribute "type" "Integer",
      plainAttribute "column" "seats"] [],
    .mk "property" [plainAttribute "name" "Seats", plainAttribute "type" "Integer",
      plainAttribute "column" "seat_rows"] []]

/-- A class with two properties in one column. -/
def stageClass : Element :=
  .mk "class" [plainAttribute "name" "Stage"] [
    .mk "property" [plainAttribute "name" "name", plainAttribute "type" "String",
      plainAttribute "column" "label"] [],
    .mk "property" [plainAttribute "name" "title", plainAttribute "type" "String",
      plainAttribute "column" "label"] []]

/-- The entities of the two classes. -/
def venueEntities : List Entity := [
  { bareEntity .root "Arena" [] with
    properties := [⟨"Seats", ⟨"Integer"⟩, .column "seats"⟩,
      ⟨"Seats", ⟨"Integer"⟩, .column "seat_rows"⟩] },
  { bareEntity .root "Stage" [] with
    properties := [⟨"Name", ⟨"String"⟩, .column "label"⟩,
      ⟨"Title", ⟨"String"⟩, .column "label"⟩] }]

/-- Members with different names share a field in one class, and a constant in another one. -/
theorem names_declared_twice_venue :
    (Resource.read "Venue.hbm.xml" (.mk "hibernate-mapping" [] [arenaClass, stageClass])).outcome =
        .ok ⟨"Venue.hbm.xml", none, venueEntities⟩ ∧
      (memberNames arenaClass = ["seats", "Seats"] ∧ memberNames stageClass = ["name", "title"]) ∧
      ∃ h, Hierarchy.ofResources [⟨"Venue.hbm.xml", none, venueEntities⟩] = .ok h ∧
        (venueEntities.map fun e =>
          (Scaffold.ofPlaced h .empty ⟨e, []⟩).baseClass.fieldNames) = [
            ["serialVersionUID", "iSeats", "iSeats", "PROP_SEATS", "PROP_SEAT_ROWS"],
            ["serialVersionUID", "iName", "iTitle", "PROP_LABEL", "PROP_LABEL"]] ∧
        ∀ e ∈ venueEntities,
          ¬ (Scaffold.ofPlaced h .empty ⟨e, []⟩).baseClass.fieldNames.Nodup := by
  have hresources : Hierarchy.ofResources [⟨"Venue.hbm.xml", none, venueEntities⟩] =
      .ok ⟨[⟨"Stage", none, none⟩, ⟨"Arena", none, none⟩], by decide⟩ := rfl
  exact ⟨rfl, by decide, _, hresources, by decide +kernel, by decide +kernel⟩

end Mapping

end EntityScaffold
