import EntityScaffold.Proofs.AccountedMembers
import EntityScaffold.Proofs.CaseRoundTrip
import EntityScaffold.Proofs.FinderTargets

/-!
# Names of properties in generated code

The generated code has names of properties in two places: as the values of constants, and in the
queries of finders. They are the names that the mapping declares, as far as these keep their case:
what is written is the name with its first character in upper case and then in lower case again. So
for `lastName` it is the declared name, while for `URL` it is `uRL`
(`property_names_in_generated_code`).

The statements start from the elements of the mapping documents. Every class element is read as a
mapped entity (`Mapping.ReadFrom`), and whichever class it takes its identifier from in the
document, the entity takes its key from the entity of that class (`exists_key_of_hasId`).
-/

namespace EntityScaffold

open Java (Field TypeName)
open Text (KeepsCase NameSet Occurs capitalize decapitalize upperAll)
open Xml (Element)

namespace Mapping

/-! ## Class elements and their entities -/

/-- A class element of a document with the given package is read as the entity. -/
structure ReadFrom (package : Option String) (c : Element) (e : Entity) : Prop where
  type_eq : ∃ name, c.attr? "name" = some name ∧ e.type = .ofToken name package
  key_read : ∃ notices, Key.read package c = ⟨notices, .ok e.key?⟩
  properties : List.Forall₂ (propertyRule.Declares package)
    ((c.childrenNamed "property").filter propertyRule.usable) e.properties
  manyToOnes : List.Forall₂ (manyToOneRule.Declares package)
    ((c.childrenNamed "many-to-one").filter manyToOneRule.usable) e.manyToOnes
  derived_read : ∃ notices, Entity.readDerived package c.children = ⟨notices, .ok e.derived⟩

variable {package : Option String} {c d id : Element} {e : Entity} {root : Element}

open Reading

theorem Entity.readFrom {kind : EntityKind} {notices : List Notice}
    (h : Entity.read package kind c = ⟨notices, .ok e⟩) : ReadFrom package c e := by
  obtain ⟨tag, attributes, children⟩ := c
  simp only [Entity.read, bind_eq_ok_iff, required_eq_ok_iff, pure_eq_ok_iff] at h
  obtain ⟨_, name, _, ⟨rfl, hname⟩, h, rfl⟩ := h
  obtain ⟨_, key?, _, hkey, h, rfl⟩ := h
  obtain ⟨_, properties, _, hproperties, h, rfl⟩ := h
  obtain ⟨_, manyToOnes, _, hmanyToOnes, h, rfl⟩ := h
  obtain ⟨_, sets, _, -, h, rfl⟩ := h
  obtain ⟨_, derived, _, hderived, ⟨rfl, rfl⟩, rfl⟩ := h
  exact {
    type_eq := ⟨name, hname, rfl⟩
    key_read := ⟨_, hkey⟩
    properties := ((propertyRule_followedBy "" package).accounted hproperties).kept
    manyToOnes := ((manyToOneRule_followedBy "" package).accounted hmanyToOnes).kept
    derived_read := ⟨_, hderived⟩ }

theorem exists_readFrom_of_readDerived {es : List Element} {entities : List Entity}
    {notices : List Notice} (h : Entity.readDerived package es = ⟨notices, .ok entities⟩)
    (hd : d ∈ es) (htag : d.name = "subclass" ∨ d.name = "union-subclass") :
    ∃ e ∈ entities, ReadFrom package d e := by
  induction es generalizing entities notices with
  | nil => exact absurd hd List.not_mem_nil
  | cons first es ih =>
    unfold Entity.readDerived at h
    rcases List.mem_cons.mp hd with rfl | hd
    · obtain ⟨kind, hkind⟩ := Option.isSome_iff_exists.mp (EntityKind.isSome_ofTag?_iff.mpr htag)
      simp only [hkind, bind_eq_ok_iff, pure_eq_ok_iff] at h
      obtain ⟨_, e, _, hfirst, ⟨_, rest, _, -, ⟨rfl, rfl⟩, rfl⟩, rfl⟩ := h
      exact ⟨e, List.mem_cons_self, Entity.readFrom hfirst⟩
    · cases hkind : EntityKind.ofTag? first.name with
      | none =>
        rw [hkind] at h
        exact ih h hd
      | some kind =>
        simp only [hkind, bind_eq_ok_iff, pure_eq_ok_iff] at h
        obtain ⟨_, _, _, -, ⟨_, rest, _, hrest, ⟨rfl, rfl⟩, rfl⟩, rfl⟩ := h
        obtain ⟨e, he, hread⟩ := ih hrest hd
        exact ⟨e, List.mem_cons_of_mem _ he, hread⟩

theorem exists_readFrom_of_readEntities {es : List Element} {entities : List Entity}
    {notices : List Notice} (h : Resource.readEntities package es = ⟨notices, .ok entities⟩)
    (hc : c ∈ es) : ∃ e ∈ entities, ReadFrom package c e := by
  unfold Resource.readEntities at h
  induction es generalizing entities notices with
  | nil => exact absurd hc List.not_mem_nil
  | cons first es ih =>
    simp only [Reading.collect, bind_eq_ok_iff, pure_eq_ok_iff] at h
    obtain ⟨_, _, _, ⟨_, e, _, hfirst, ⟨rfl, rfl⟩, rfl⟩, ⟨_, rest, _, hrest, ⟨rfl, rfl⟩, rfl⟩,
      rfl⟩ := h
    rcases List.mem_cons.mp hc with rfl | hc
    · exact ⟨e, List.mem_cons_self, Entity.readFrom hfirst⟩
    · obtain ⟨e', he', hread⟩ := ih hrest hc
      exact ⟨e', List.mem_cons_of_mem _ he', hread⟩

/-! ## Identifiers -/

/-- The class has an identifier of the given name: its own one, or else the one that the class
around it has. -/
inductive HasId (root : Element) : Element → String → Prop
  | own {c id : Element} {name : String} (hc : ClassShaped root c) (hid : c.child? "id" = some id)
      (hname : id.attr? "name" = some name) : HasId root c name
  | inherited {c d : Element} {name : String} (houter : HasId root c name) (hd : d ∈ c.children)
      (htag : d.name = "subclass" ∨ d.name = "union-subclass") (hnone : d.child? "id" = none) :
      HasId root d name

theorem SimpleKey.read_eq_ok {notices : List Notice} {key : SimpleKey}
    (h : SimpleKey.read package id = ⟨notices, .ok key⟩) :
    ∃ name, id.attr? "name" = some name ∧ key.name = accessorName name ∧
      id.attr? "column" = some key.column := by
  simp only [SimpleKey.read, bind_eq_ok_iff, required_eq_ok_iff, pure_eq_ok_iff] at h
  obtain ⟨_, name, _, ⟨-, hname⟩, ⟨_, type, _, -, ⟨_, column, _, ⟨-, hcolumn⟩, ⟨-, rfl⟩, -⟩, -⟩,
    -⟩ := h
  exact ⟨name, hname, rfl, hcolumn⟩

theorem ReadFrom.simpleKey?_of_id (h : ReadFrom package c e) (hid : c.child? "id" = some id) :
    ∃ key name, e.simpleKey? = some key ∧ id.attr? "name" = some name ∧
      key.name = accessorName name ∧ id.attr? "column" = some key.column := by
  obtain ⟨notices, hread⟩ := h.key_read
  have hsimple : ∃ notices key, SimpleKey.read package id = ⟨notices, .ok key⟩ ∧
      e.key? = some (.simple key) := by
    simp only [Key.read, hid] at hread
    split at hread
    · simp only [bind_eq_ok_iff, pure_eq_ok_iff] at hread
      obtain ⟨_, _, _, -, ⟨_, key, _, hsimple, ⟨-, hkey⟩, -⟩, -⟩ := hread
      exact ⟨_, key, hsimple, hkey⟩
    · simp only [bind_eq_ok_iff, pure_eq_ok_iff] at hread
      obtain ⟨_, key, _, hsimple, ⟨-, hkey⟩, -⟩ := hread
      exact ⟨_, key, hsimple, hkey⟩
  obtain ⟨_, key, hsimple, hkey⟩ := hsimple
  obtain ⟨name, hname, haccessor, hcolumn⟩ := SimpleKey.read_eq_ok hsimple
  refine ⟨key, name, ?_, hname, haccessor, hcolumn⟩
  rw [Entity.simpleKey?, hkey]

theorem ReadFrom.simpleKey?_of_no_id (h : ReadFrom package c e) (hid : c.child? "id" = none) :
    e.simpleKey? = none := by
  obtain ⟨notices, hread⟩ := h.key_read
  cases hcomposite : c.child? "composite-id" with
  | none =>
    simp only [Key.read, hid, hcomposite, pure_eq_ok_iff] at hread
    rw [Entity.simpleKey?, hread.2]
  | some key =>
    simp only [Key.read, hid, hcomposite, bind_eq_ok_iff] at hread
    obtain ⟨_, components, _, -, hkey, -⟩ := hread
    unfold Key.ofComponents at hkey
    split at hkey
    · rw [Entity.simpleKey?, (pure_eq_ok_iff.mp hkey).2]
    · rw [Entity.simpleKey?, (skip_eq_ok_iff.mp hkey).2]

theorem ReadFrom.exists_derived (h : ReadFrom package c e) (hd : d ∈ c.children)
    (htag : d.name = "subclass" ∨ d.name = "union-subclass") :
    ∃ e' ∈ e.derived, ReadFrom package d e' := by
  obtain ⟨notices, hderived⟩ := h.derived_read
  exact exists_readFrom_of_readDerived hderived hd htag

/-! ## All classes of a document -/

section Document

variable {path : String} {r : Resource} (hread : (Resource.read path root).outcome = .ok r)

include hread

/-- Every class of a document, however deep, is read as an entity at its place. -/
theorem exists_readFrom_of_classShaped (hc : ClassShaped root c) :
    ∃ e above, NestedIn r.entities e above ∧ ReadFrom (root.attr? "package") c e := by
  have hresource := eq_ok hread
  simp only [Resource.read, bind_eq_ok_iff, pure_eq_ok_iff] at hresource
  obtain ⟨_, entities, _, hentities, ⟨-, rfl⟩, -⟩ := hresource
  induction hc with
  | top hc =>
    obtain ⟨e, he, hfrom⟩ := exists_readFrom_of_readEntities hentities hc
    exact ⟨e, [], .root he, hfrom⟩
  | derived _ hd htag ih =>
    obtain ⟨parent, above, hnested, hfrom⟩ := ih
    obtain ⟨e, he, hfrom⟩ := hfrom.exists_derived hd htag
    exact ⟨e, parent :: above, .derived hnested he, hfrom⟩

/-- The entity of a class that has an identifier has the key of this name. -/
theorem exists_key_of_hasId {name : String} (hc : HasId root c name) :
    ∃ e above key, NestedIn r.entities e above ∧ ReadFrom (root.attr? "package") c e ∧
      (⟨e, above⟩ : Placed).key? = some key ∧ key.name = accessorName name := by
  induction hc with
  | own hc hid hname =>
    obtain ⟨e, above, hnested, hfrom⟩ := exists_readFrom_of_classShaped hread hc
    obtain ⟨key, name', hkey, hname', haccessor, -⟩ := hfrom.simpleKey?_of_id hid
    rw [hname] at hname'
    cases hname'
    exact ⟨e, above, key, hnested, hfrom, Placed.key?_of_own hkey, haccessor⟩
  | inherited _ hd htag hnone ih =>
    obtain ⟨parent, above, key, hnested, hfrom, hkey, haccessor⟩ := ih
    obtain ⟨e, he, hfrom⟩ := hfrom.exists_derived hd htag
    refine ⟨e, parent :: above, key, .derived hnested he, hfrom, ?_, haccessor⟩
    rw [Placed.key?_of_inherited (hfrom.simpleKey?_of_no_id hnone), hkey]

end Document

/-! ## What is declared with a column -/

/-- The column of an identifier or a property, with the name. -/
def namedColumn? (e : Element) : Option (String × String) := do
  let column ← e.attr? "column"
  let name ← e.attr? "name"
  return (column, name)

/-- The columns that a class names for its identifier and for the properties that are kept. -/
def namedColumns (c : Element) : List (String × String) :=
  ((c.child? "id").toList ++ (c.childrenNamed "property").filter propertyRule.usable).filterMap
    namedColumn?

theorem filterMap_eq_of_forall₂ {α β γ : Type} {R : α → β → Prop} {f : α → Option γ}
    {g : β → Option γ} {as : List α} {bs : List β} (h : List.Forall₂ R as bs)
    (hfg : ∀ a b, R a b → f a = g b) : as.filterMap f = bs.filterMap g := by
  induction h with
  | nil => rfl
  | cons hab _ ih => rw [List.filterMap_cons, List.filterMap_cons, hfg _ _ hab, ih]

theorem exists_mem_of_forall₂ {α β : Type} {R : α → β → Prop} {as : List α} {bs : List β}
    (h : List.Forall₂ R as bs) {a : α} (ha : a ∈ as) : ∃ b ∈ bs, R a b := by
  induction h with
  | nil => exact absurd ha List.not_mem_nil
  | cons hab _ ih =>
    rcases List.mem_cons.mp ha with rfl | ha
    · exact ⟨_, List.mem_cons_self, hab⟩
    · obtain ⟨b, hb, hab⟩ := ih ha
      exact ⟨b, List.mem_cons_of_mem _ hb, hab⟩

theorem Source.column?_eq_attr? {source : Source} (h : Source.ofElement? d = some source) :
    source.column? = d.attr? "column" := by
  unfold Source.ofElement? at h
  cases hcolumn : d.attr? "column" with
  | some column =>
    rw [hcolumn] at h
    cases h
    rfl
  | none =>
    rw [hcolumn] at h
    obtain ⟨formula, -, rfl⟩ := Option.map_eq_some_iff.mp h
    rfl

/-- The constants of an entity are those for the columns that its class names. -/
theorem ReadFrom.nameConstants_eq (h : ReadFrom package c e) : Scaffold.nameConstants e =
    (namedColumns c).map fun (column, name) =>
      Scaffold.nameConstant column (accessorName name) := by
  have hid : (e.simpleKey?.toList.map fun key => Scaffold.nameConstant key.column key.name) =
      ((c.child? "id").toList.filterMap namedColumn?).map fun (column, name) =>
        Scaffold.nameConstant column (accessorName name) := by
    cases hid : c.child? "id" with
    | none =>
      rw [h.simpleKey?_of_no_id hid]
      rfl
    | some id =>
      obtain ⟨key, name, hkey, hname, haccessor, hcolumn⟩ := h.simpleKey?_of_id hid
      simp [namedColumn?, hkey, hname, haccessor, hcolumn]
  have hproperties : (e.properties.filterMap fun property =>
      property.source.column?.map fun column => Scaffold.nameConstant column property.name) =
        (((c.childrenNamed "property").filter propertyRule.usable).filterMap namedColumn?).map
          fun (column, name) => Scaffold.nameConstant column (accessorName name) := by
    rw [List.map_filterMap]
    refine (filterMap_eq_of_forall₂ h.properties ?_).symm
    rintro element property ⟨name, _, hname, haccessor, -, -, hsource⟩
    rw [namedColumn?, Source.column?_eq_attr? hsource, haccessor, hname]
    cases element.attr? "column" <;> rfl
  rw [Scaffold.nameConstants, namedColumns, List.filterMap_append, List.map_append, hid,
    hproperties]

/-- An association with a column is one of the entity, and finders look for it. -/
theorem ReadFrom.exists_association (h : ReadFrom package c e)
    (hd : d ∈ c.childrenNamed "many-to-one") {name target : String}
    (hname : d.attr? "name" = some name) (htarget : d.attr? "class" = some target)
    (hcolumn : (d.attr? "column").isSome) :
    ∃ association ∈ e.columnManyToOnes, association.name = accessorName name ∧
      association.target = .ofToken target package := by
  have husable : manyToOneRule.usable d = true := by simp [manyToOneRule, hasSource, hcolumn]
  obtain ⟨association, hassociation, name', target', hname', haccessor, htarget', htype, hsource⟩ :=
    exists_mem_of_forall₂ h.manyToOnes (List.mem_filter.mpr ⟨hd, husable⟩)
  rw [hname] at hname'
  rw [htarget] at htarget'
  cases hname'
  cases htarget'
  refine ⟨association, List.mem_filter.mpr ⟨hassociation, ?_⟩, haccessor, htype⟩
  rw [Source.column?_eq_attr? hsource, hcolumn]

end Mapping

namespace Scaffold

open Mapping (accessorName)

/-! ## The texts that name a property -/

/-- The constant for a column, with the name of the property as its value. -/
def constantText (column value : String) : String :=
  "\tpublic static String PROP_" ++ upperAll column ++ " = \"" ++ value ++ "\";\n"

/-- The start of the query for the objects of a class, where a property of the class leads to an
object that has a property of the given value. -/
def queryText (className property inner : String) : String :=
  "from " ++ className ++ " x where x." ++ property ++ "." ++ inner ++ " = :"

theorem render_nameConstant (column name : String) :
    (nameConstant column name).render = constantText column (decapitalize name) := by
  have htype : (Java.TypeUse.of ⟨"String"⟩).render = "String" := by decide
  unfold nameConstant constantText Field.render
  generalize decapitalize name = value
  generalize upperAll column = upperColumn
  simp only [Java.renderWords, List.map_cons, List.map_nil, String.join_cons, String.join_nil,
    Option.toList_some, Java.Expr.render, htype]
  rw [← String.toList_inj]
  simp

set_option maxRecDepth 1200 in
theorem occurs_queryText (className associationName typeName keyName : String) :
    Occurs (queryText className (decapitalize associationName) (decapitalize keyName))
      (finderText className associationName typeName keyName) := by
  unfold finderText queryText
  generalize decapitalize associationName = property
  generalize decapitalize keyName = inner
  generalize Java.parameterName associationName = parameter
  refine ⟨("\t@SuppressWarnings(\"unchecked\")\n\tpublic List<" ++ className ++ "> findBy" ++
    associationName ++ "(org.hibernate.Session hibSession, " ++ typeName ++ " " ++ parameter ++
    "Id) \x7b\n\t\treturn hibSession.createQuery(\"").toList,
    (parameter ++ "Id\").set" ++ typeName ++ "(\"" ++ parameter ++ "Id\", " ++ parameter ++
      "Id).list();\n\t\x7d\n").toList, ?_⟩
  simp

/-- A constant has the declared name as its value exactly if the name keeps its case. -/
theorem constantText_eq_iff {column name : String} :
    constantText column (decapitalize (accessorName name)) = constantText column name ↔
      KeepsCase name := by
  unfold constantText
  rw [String.append_left_inj, String.append_right_inj]
  exact Text.decapitalize_capitalize_eq_iff

/-- A query reads the declared names exactly if both keep their case. -/
theorem queryText_eq_iff {className name inner : String} :
    queryText className (decapitalize (accessorName name)) (decapitalize (accessorName inner)) =
      queryText className name inner ↔ KeepsCase name ∧ KeepsCase inner := by
  have hpath (property inner : String) : queryText className property inner =
      "from " ++ className ++ " x where x." ++ (property ++ "." ++ inner) ++ " = :" := by
    simp only [queryText, String.append_assoc]
  rw [hpath, hpath, String.append_left_inj, String.append_right_inj]
  exact Text.decapitalize_capitalize_path_eq_iff

theorem occurs_nameConstant {s : Scaffold} (header? : Option String) {f : Field}
    (hf : f ∈ nameConstants s.entity) : Occurs f.render (s.artifact header? .base).contents := by
  have hmember : Java.Member.field f ∈ s.baseClass.members := by
    rw [members_baseClass]
    exact List.mem_append_left _ (List.mem_map_of_mem (List.mem_append_right _ hf))
  exact (Java.occurs_member hmember).trans (s.occurs_artifact header? .base)

end Scaffold

/-! ## Names in generated code -/

namespace Mapping

/-- The code that is generated for a class names properties as the class does, with the first
character in lower case. -/
structure NamesProperties (docs : List (String × Element)) (package : Option String) (c : Element)
    (s : Scaffold) (header? : Option String) : Prop where
  /-- There is a constant for the identifier if it is simple, and for each property with a column,
  and no other constant of this kind. -/
  constants : (Scaffold.nameConstants s.entity).map (·.render) =
    (namedColumns c).map fun (column, name) =>
      Scaffold.constantText column (decapitalize (accessorName name))
  occurs_constant : ∀ column name, (column, name) ∈ namedColumns c →
    Occurs (Scaffold.constantText column (decapitalize (accessorName name)))
      (s.artifact header? .base).contents
  /-- For each association with a column there is a query; the class that the association leads to
  and its identifier may be declared in any document. -/
  occurs_query : ∀ e ∈ c.childrenNamed "many-to-one", ∀ name target,
    e.attr? "name" = some name → e.attr? "class" = some target → (e.attr? "column").isSome →
      ∀ d ∈ docs, ∀ c' token inner, HasId d.2 c' inner → c'.attr? "name" = some token →
        (TypeName.ofToken token (d.2.attr? "package")).simple =
          (TypeName.ofToken target package).simple →
        Occurs (Scaffold.queryText s.className (decapitalize (accessorName name))
          (decapitalize (accessorName inner))) (s.artifact header? .accessBase).contents

section Documents

variable {docs : List (String × Element)} {rs : List Resource} {h : Hierarchy}
  (hdocs : List.Forall₂ (fun d r => (Resource.read d.1 d.2).outcome = .ok r) docs rs)

include hdocs

/-- A finder for a class that has an identifier binds a key of this name. -/
theorem finderKey_of_hasId (hrs : Hierarchy.ofResources rs = .ok h) {d : String × Element}
    (hd : d ∈ docs) {c : Element} {name token : String} (hc : HasId d.2 c name)
    (htoken : c.attr? "name" = some token) :
    (h.finderKey (TypeName.ofToken token (d.2.attr? "package")).simple).name =
      accessorName name := by
  obtain ⟨r, hr, hread⟩ := exists_mem_of_forall₂ hdocs hd
  obtain ⟨e, above, key, hnested, hfrom, hkey, haccessor⟩ := exists_key_of_hasId hread hc
  obtain ⟨token', htoken', htype⟩ := hfrom.type_eq
  rw [htoken] at htoken'
  cases htoken'
  have hmapped : Mapped rs ⟨e, above⟩ := ⟨r, hr, hnested⟩
  have hfinder := Hierarchy.finderKey_of_mapped hrs hmapped
  rw [Entity.className, htype, hkey] at hfinder
  rw [hfinder]
  exact haccessor

theorem ReadFrom.namesProperties (hrs : Hierarchy.ofResources rs = .ok h)
    {package : Option String} {c : Element} {p : Placed} (hfrom : ReadFrom package c p.entity)
    (shown : NameSet) (header? : Option String) :
    NamesProperties docs package c (Scaffold.ofPlaced h shown p) header? := by
  have hconstants : Scaffold.nameConstants (Scaffold.ofPlaced h shown p).entity = _ :=
    hfrom.nameConstants_eq
  refine ⟨?_, fun column name hcolumn => ?_, ?_⟩
  · rw [hconstants, List.map_map]
    exact List.map_congr_left fun _ _ => Scaffold.render_nameConstant _ _
  · have hmem : Scaffold.nameConstant column (accessorName name) ∈
        Scaffold.nameConstants (Scaffold.ofPlaced h shown p).entity := by
      rw [hconstants]
      exact List.mem_map.mpr ⟨(column, name), hcolumn, rfl⟩
    rw [← Scaffold.render_nameConstant]
    exact Scaffold.occurs_nameConstant header? hmem
  · intro e he name target hname htarget hcolumn d hd c' token inner hid htoken hsimple
    obtain ⟨association, hassociation, haccessor, htype⟩ :=
      hfrom.exists_association he hname htarget hcolumn
    have hbinds := ((Scaffold.ofPlaced h shown p).finderBinds_finderKey header? hassociation).occurs
    have hinner : ((Scaffold.ofPlaced h shown p).hierarchy.finderKey
        association.target.simple).name = accessorName inner := by
      rw [htype, ← hsimple]
      exact finderKey_of_hasId hdocs hrs hd hid htoken
    rw [hinner, haccessor] at hbinds
    exact (Scaffold.occurs_queryText _ _ _ _).trans hbinds

/-- Every class of the documents is read as a mapped entity, and the code that is generated for the
entity names the properties of the class with their first character in lower case: in its constants
and in the queries of its finders. These are the names that the documents declare exactly if they
keep their case, as all do that start with an ASCII character other than an upper-case letter. -/
theorem property_names_in_generated_code (hrs : Hierarchy.ofResources rs = .ok h)
    {d : String × Element} (hd : d ∈ docs) {c : Element} (hc : ClassShaped d.2 c) :
    (∃ p, Mapped rs p ∧
      (∃ name, c.attr? "name" = some name ∧
        p.entity.type = .ofToken name (d.2.attr? "package")) ∧
      ∀ shown header?, NamesProperties docs (d.2.attr? "package") c
        (Scaffold.ofPlaced h shown p) header?) ∧
      (∀ column name, Scaffold.constantText column (decapitalize (accessorName name)) =
        Scaffold.constantText column name ↔ KeepsCase name) ∧
      (∀ className name inner,
        Scaffold.queryText className (decapitalize (accessorName name))
            (decapitalize (accessorName inner)) = Scaffold.queryText className name inner ↔
          KeepsCase name ∧ KeepsCase inner) ∧
      ∀ first : Char, first.toNat < 128 → ∀ rest,
        (KeepsCase (String.ofList (first :: rest)) ↔ ¬ first.isUpper) := by
  refine ⟨?_, fun _ _ => Scaffold.constantText_eq_iff, fun _ _ _ => Scaffold.queryText_eq_iff,
    fun _ hascii rest => Text.keepsCase_iff_of_ascii hascii rest⟩
  obtain ⟨r, hr, hread⟩ := exists_mem_of_forall₂ hdocs hd
  obtain ⟨e, above, hnested, hfrom⟩ := exists_readFrom_of_classShaped hread hc
  exact ⟨⟨e, above⟩, ⟨r, hr, hnested⟩, hfrom.type_eq, fun shown header? =>
    ReadFrom.namesProperties hdocs hrs hfrom shown header?⟩

end Documents

/-! ### A target with an identifier from around it -/

/-- A class with a property and with an association that leads to a class of another document. -/
def lectureClass : Element :=
  .mk "class" [plainAttribute "name" "Lecture"] [
    .mk "property" [plainAttribute "name" "title", plainAttribute "type" "string",
      plainAttribute "column" "lecture_title"] [],
    .mk "many-to-one" [plainAttribute "name" "place", plainAttribute "class" "Theatre",
      plainAttribute "column" "place"] []]

/-- A class without an identifier, derived from one that has an identifier. -/
def theatreClass : Element :=
  .mk "subclass" [plainAttribute "name" "Theatre"] []

/-- The class with the identifier. -/
def hallClass : Element :=
  .mk "class" [plainAttribute "name" "Hall"] [
    .mk "id" [plainAttribute "name" "code", plainAttribute "type" "string",
      plainAttribute "column" "code"] [],
    theatreClass]

def lectureDocuments : List (String × Element) := [
  ("Lecture.hbm.xml", .mk "hibernate-mapping" [] [lectureClass]),
  ("Hall.hbm.xml", .mk "hibernate-mapping" [] [hallClass])]

def lectureResources : List Resource := [
  ⟨"Lecture.hbm.xml", none, [
    { bareEntity .root "Lecture" [] with
      properties := [⟨"Title", ⟨"String"⟩, .column "lecture_title"⟩]
      manyToOnes := [⟨"Place", ⟨"Theatre"⟩, .column "place"⟩] }]⟩,
  ⟨"Hall.hbm.xml", none, [
    { bareEntity .root "Hall" [bareEntity .subclass "Theatre" []] with
      key? := some (.simple ⟨"Code", ⟨"String"⟩, "code"⟩) }]⟩]

theorem property_names_in_generated_code_lecture :
    ∃ h, Hierarchy.ofResources lectureResources = .ok h ∧
      ∃ p, Mapped lectureResources p ∧ p.entity.type = ⟨"Lecture"⟩ ∧
        let s := Scaffold.ofPlaced h .empty p
        Occurs "\tpublic static String PROP_LECTURE_TITLE = \"title\";\n"
          (s.artifact none .base).contents ∧
        Occurs "from Lecture x where x.place.code = :" (s.artifact none .accessBase).contents := by
  have hdocs : List.Forall₂ (fun d r => (Resource.read d.1 d.2).outcome = .ok r)
      lectureDocuments lectureResources := .cons rfl (.cons rfl .nil)
  have hresources : Hierarchy.ofResources lectureResources = .ok ⟨[
      ⟨"Theatre", some "Hall", none⟩, ⟨"Hall", none, some ⟨⟨"String"⟩, "Code"⟩⟩,
      ⟨"Lecture", none, none⟩], by decide⟩ := rfl
  have hlecture : ClassShaped (.mk "hibernate-mapping" [] [lectureClass]) lectureClass :=
    .top List.mem_cons_self
  have hhall : HasId (.mk "hibernate-mapping" [] [hallClass]) theatreClass "code" :=
    .inherited (.own (.top List.mem_cons_self) rfl rfl)
      (List.mem_cons_of_mem _ List.mem_cons_self) (.inl rfl) rfl
  obtain ⟨⟨p, hp, ⟨_, hname, htype⟩, hnames⟩, hconstant, hquery, -⟩ :=
    property_names_in_generated_code hdocs hresources List.mem_cons_self hlecture
  cases hname
  refine ⟨_, hresources, p, hp, htype, ?_⟩
  intro s
  obtain ⟨-, hconstants, hqueries⟩ := hnames .empty none
  have hclassName : s.className = "Lecture" := by
    have hentity : s.className = p.entity.type.simple := rfl
    rw [hentity, htype]
    decide
  have htitle := hconstants "lecture_title" "title" (by decide)
  have hplace := hqueries _ List.mem_cons_self "place" "Theatre" rfl rfl rfl _
    (List.mem_cons_of_mem _ List.mem_cons_self) theatreClass "Theatre" "code" hhall rfl rfl
  rw [(hconstant _ _).mpr (by decide +kernel)] at htitle
  rw [(hquery _ _ _).mpr ⟨by decide +kernel, by decide +kernel⟩, hclassName] at hplace
  have htitleText : Scaffold.constantText "lecture_title" "title" =
      "\tpublic static String PROP_LECTURE_TITLE = \"title\";\n" := by decide +kernel
  have hplaceText : Scaffold.queryText "Lecture" "place" "code" =
      "from Lecture x where x.place.code = :" := by decide +kernel
  rw [htitleText] at htitle
  rw [hplaceText] at hplace
  exact ⟨htitle, hplace⟩

/-! ### A name in upper case -/

/-- A class with a property whose name starts with an upper-case letter. -/
def siteClass : Element :=
  .mk "class" [plainAttribute "name" "Site"] [
    .mk "property" [plainAttribute "name" "URL", plainAttribute "type" "string",
      plainAttribute "column" "url"] []]

/-- The entity as which the class is read. -/
def siteEntity : Entity :=
  { bareEntity .root "Site" [] with properties := [⟨"URL", ⟨"String"⟩, .column "url"⟩] }

/-- The constant has another name as its value than the document declares, and there is no other
constant. -/
theorem property_name_changes_site :
    (Resource.read "Site.hbm.xml" (.mk "hibernate-mapping" [] [siteClass])).outcome =
        .ok ⟨"Site.hbm.xml", none, [siteEntity]⟩ ∧
      ∃ h, Hierarchy.ofResources [⟨"Site.hbm.xml", none, [siteEntity]⟩] = .ok h ∧
        ("url", "URL") ∈ namedColumns siteClass ∧
        (Scaffold.nameConstants siteEntity).map (·.render) =
          [Scaffold.constantText "url" "uRL"] ∧
        Scaffold.constantText "url" "uRL" ≠ Scaffold.constantText "url" "URL" ∧
        ∀ (shown : NameSet) (header? : Option String),
          Occurs "\tpublic static String PROP_URL = \"uRL\";\n"
            ((Scaffold.ofPlaced h shown ⟨siteEntity, []⟩).artifact header? .base).contents := by
  have hresources : Hierarchy.ofResources [⟨"Site.hbm.xml", none, [siteEntity]⟩] =
      .ok ⟨[⟨"Site", none, none⟩], by decide⟩ := rfl
  have hconstants : Scaffold.nameConstants siteEntity = [Scaffold.nameConstant "url" "URL"] := rfl
  have htext : (Scaffold.nameConstant "url" "URL").render =
      "\tpublic static String PROP_URL = \"uRL\";\n" := by decide +kernel
  have hvalue : decapitalize "URL" = "uRL" := by decide
  have hdiffers : Scaffold.constantText "url" "uRL" ≠ Scaffold.constantText "url" "URL" := by
    decide +kernel
  refine ⟨rfl, _, hresources, by decide, ?_, hdiffers, fun shown header? => ?_⟩
  · rw [hconstants, List.map_singleton, Scaffold.render_nameConstant, hvalue]
  · rw [← htext]
    exact Scaffold.occurs_nameConstant header? (List.mem_singleton_self _)

end Mapping

end EntityScaffold
