import EntityScaffold.Proofs.Acceptance
import EntityScaffold.Proofs.DocumentOrder
import EntityScaffold.Proofs.MentionedTypes

/-!
# Imports of generated files

Which types a generated file writes is told by the documents (`Placed.Writes`): the types of the
members, the key and the class next around the entity, and in finders the keys of entities that may
be mapped anywhere. The code of the file mentions exactly these types (`mem_mentioned_iff_writes`),
and what it asks to import covers them. So those that live in a package are what the file imports
(`written_types_are_imported`), and the four files of an entity import each other under the names
that their artifacts have.
-/

namespace EntityScaffold

open Java (ClassDeclaration SourceFile TypeName)
open Mapping (Entity KeyComponent ManyToOne Mapped Placed Resource SetMember)
open Scaffold (comparisonTypes hashSetType listType memberTypes serializableType setType)

/-! ## What the documents say -/

namespace Mapping.Placed

/-- One of the classes that are generated for the entity. -/
def generated (p : Placed) (kind : ArtifactKind) : TypeName :=
  kind.type (p.entity.type.package?.getD "") p.entity.className

/-- The class from which access objects in the package of the entity descend. -/
def rootAccess (p : Placed) : TypeName :=
  ⟨Java.qualify (ArtifactKind.access.package (p.entity.type.package?.getD "")) "_RootDAO"⟩

/-- The file of a kind for the entity `p` writes a type by its simple name. -/
inductive Writes (rs : List Resource) (p : Placed) : ArtifactKind → TypeName → Prop
  | serializable : Writes rs p .base serializableType
  | parent {parent : Entity} (h : p.parent? = some parent) : Writes rs p .base parent.type
  | key {key : SimpleKey} (h : p.key? = some key) : Writes rs p .base key.type
  | component {component : KeyComponent} (h : component ∈ p.entity.keyComponents) :
      Writes rs p .base component.type
  | property {property : Property} (h : property ∈ p.entity.properties) :
      Writes rs p .base property.type
  | association {association : ManyToOne} (h : association ∈ p.entity.manyToOnes) :
      Writes rs p .base association.target
  | set {set : SetMember} (h : set ∈ p.entity.sets) : Writes rs p .base setType
  | hashSet {set : SetMember} (h : set ∈ p.entity.sets) : Writes rs p .base hashSetType
  | element {set : SetMember} (h : set ∈ p.entity.sets) : Writes rs p .base set.element
  /-- The test for equality, which is written where there is a key, casts to the concrete class. -/
  | compared (h : p.key?.isSome ∨ p.entity.compositeKey?.isSome) :
      Writes rs p .base (p.generated .concrete)
  | comparison {t : TypeName} (ht : t ∈ comparisonTypes)
      (h : p.key?.isSome ∨ p.entity.compositeKey?.isSome) : Writes rs p .base t
  | language {t : TypeName} (ht : t ∈ memberTypes) : Writes rs p .base t
  | extendsBase : Writes rs p .concrete (p.generated .base)
  | extendsAccessBase : Writes rs p .access (p.generated .accessBase)
  | extendsRoot : Writes rs p .accessBase p.rootAccess
  | loaded : Writes rs p .accessBase (p.generated .concrete)
  | access : Writes rs p .accessBase (p.generated .access)
  | accessKey {key : SimpleKey} (h : p.key? = some key) : Writes rs p .accessBase key.type
  | anyKey (h : p.key? = none) : Writes rs p .accessBase serializableType
  | reference : Writes rs p .accessBase ⟨"Class"⟩
  | list {association : ManyToOne} (h : association ∈ p.entity.columnManyToOnes) :
      Writes rs p .accessBase listType
  | suppressed {association : ManyToOne} (h : association ∈ p.entity.columnManyToOnes) :
      Writes rs p .accessBase ⟨"SuppressWarnings"⟩
  /-- A finder takes a key of its target, wherever that is mapped. -/
  | finder {association : ManyToOne} {target : Placed} {key : SimpleKey}
      (h : association ∈ p.entity.columnManyToOnes) (htarget : Mapped rs target)
      (hname : target.entity.className = association.target.simple)
      (hkey : target.key? = some key) : Writes rs p .accessBase key.type
  /-- Where no key of the target is known, one is assumed. -/
  | fallback {association : ManyToOne} (h : association ∈ p.entity.columnManyToOnes)
      (hnone : ∀ target, Mapped rs target →
        target.entity.className = association.target.simple → target.key? = none) :
      Writes rs p .accessBase KeyRef.fallback.type

end Mapping.Placed

/-! ## The documents decide -/

namespace Mapping.Placed

variable {rs : List Resource} {h : Hierarchy} {p : Placed} {kind : ArtifactKind} {t : TypeName}

/-- The type of the key in a finder: that of the target if it is mapped and has one, and else the
one that is assumed. -/
theorem finderKey_type_cases (hrs : Hierarchy.ofResources rs = .ok h) (name : String) :
    (∃ target key, Mapped rs target ∧ target.entity.className = name ∧
      target.key? = some key ∧ (h.finderKey name).type = key.type) ∨
      (∀ target, Mapped rs target → target.entity.className = name → target.key? = none) ∧
        (h.finderKey name).type = KeyRef.fallback.type := by
  by_cases hname : name ∈ h.names
  · obtain ⟨target, htarget, rfl⟩ := (Hierarchy.mem_names_iff hrs).mp hname
    rw [Hierarchy.finderKey_of_mapped hrs htarget]
    cases hkey : target.key? with
    | none =>
      refine .inr ⟨fun other hother hsame => ?_, rfl⟩
      rw [hother.unique hrs htarget hsame, hkey]
    | some key => exact .inl ⟨target, key, htarget, rfl, hkey, rfl⟩
  · rw [Hierarchy.finderKey_of_not_mem hname]
    refine .inr ⟨fun target htarget hsame => ?_, rfl⟩
    exact absurd ((Hierarchy.mem_names_iff hrs).mpr ⟨target, htarget, hsame⟩) hname

theorem finderKey_type_of_none (hrs : Hierarchy.ofResources rs = .ok h) {name : String}
    (hnone : ∀ target, Mapped rs target → target.entity.className = name → target.key? = none) :
    (h.finderKey name).type = KeyRef.fallback.type := by
  rcases finderKey_type_cases hrs name with ⟨target, key, htarget, hname, hkey, -⟩ | ⟨-, htype⟩
  · rw [hnone target htarget hname] at hkey
    cases hkey
  · exact htype

theorem key?_ofPlaced {shown : Text.NameSet} {key : KeyRef} :
    (Scaffold.ofPlaced h shown p).key? = some key ↔ ∃ own, p.key? = some own ∧ .ofKey own = key :=
  Option.map_eq_some_iff

theorem isSome_key?_ofPlaced (h : Hierarchy) (shown : Text.NameSet) (p : Placed) :
    (Scaffold.ofPlaced h shown p).key?.isSome = p.key?.isSome :=
  Option.isSome_map

theorem keyType_ofPlaced (h : Hierarchy) (shown : Text.NameSet) (p : Placed) :
    (Scaffold.ofPlaced h shown p).keyType = (p.key?.map (·.type)).getD serializableType := by
  have hkey : (Scaffold.ofPlaced h shown p).key? = p.key?.map .ofKey := rfl
  rw [Scaffold.keyType, hkey, Option.map_map]
  rfl

/-- What the documents say is written is mentioned in the code. -/
theorem Writes.mentioned (hwrites : p.Writes rs kind t) (hrs : Hierarchy.ofResources rs = .ok h)
    (shown : Text.NameSet) :
    t ∈ ((Scaffold.ofPlaced h shown p).sourceFile kind).declaration.mentioned := by
  have hfield (ht : ∃ f ∈ Scaffold.fields p.entity, t ∈ f.type.mentioned) :
      t ∈ (Scaffold.ofPlaced h shown p).baseClass.mentioned :=
    Scaffold.mem_mentioned_baseClass.mpr (.inr (.inr (.inl ht)))
  have hcompared (ht : t ∈ p.generated .concrete :: comparisonTypes)
      (hkey : p.key?.isSome ∨ p.entity.compositeKey?.isSome) :
      t ∈ (Scaffold.ofPlaced h shown p).baseClass.mentioned := by
    rw [← isSome_key?_ofPlaced h shown] at hkey
    exact Scaffold.mem_mentioned_baseClass.mpr (.inr (.inr (.inr (.inr (.inr (.inr ⟨ht, hkey⟩))))))
  have hhead (ht : t ∈ [p.rootAccess, p.generated .concrete,
      (p.key?.map (·.type)).getD serializableType, p.generated .access, ⟨"Class"⟩]) :
      t ∈ (Scaffold.ofPlaced h shown p).accessBaseClass.mentioned := by
    rw [← keyType_ofPlaced h shown] at ht
    exact Scaffold.mem_mentioned_accessBaseClass.mpr (.inl ht)
  have hfinder {association : ManyToOne} (hassociation : association ∈ p.entity.columnManyToOnes)
      (ht : t ∈ [⟨"SuppressWarnings"⟩, listType,
        (h.finderKey association.target.simple).type]) :
      t ∈ (Scaffold.ofPlaced h shown p).accessBaseClass.mentioned :=
    Scaffold.mem_mentioned_accessBaseClass.mpr (.inr ⟨association, hassociation, ht⟩)
  cases hwrites with
  | serializable => exact Scaffold.mem_mentioned_baseClass.mpr (.inr (.inl rfl))
  | parent hparent =>
    exact Scaffold.mem_mentioned_baseClass.mpr (.inl (Option.map_eq_some_iff.mpr ⟨_, hparent, rfl⟩))
  | key hkey =>
    exact Scaffold.mem_mentioned_baseClass.mpr
      (.inr (.inr (.inr (.inl ⟨_, key?_ofPlaced.mpr ⟨_, hkey, rfl⟩, rfl⟩))))
  | component hcomponent =>
    exact hfield (Scaffold.mem_mentioned_fields.mpr (.inr (.inl ⟨_, hcomponent, rfl⟩)))
  | property hproperty =>
    exact hfield (Scaffold.mem_mentioned_fields.mpr (.inr (.inr (.inl ⟨_, hproperty, rfl⟩))))
  | association hassociation =>
    exact hfield (Scaffold.mem_mentioned_fields.mpr
      (.inr (.inr (.inr (.inl ⟨_, hassociation, rfl⟩)))))
  | set hset =>
    exact hfield (Scaffold.mem_mentioned_fields.mpr
      (.inr (.inr (.inr (.inr ⟨_, hset, .inl rfl⟩)))))
  | element hset =>
    exact hfield (Scaffold.mem_mentioned_fields.mpr
      (.inr (.inr (.inr (.inr ⟨_, hset, .inr rfl⟩)))))
  | hashSet hset =>
    exact Scaffold.mem_mentioned_baseClass.mpr
      (.inr (.inr (.inr (.inr (.inl ⟨_, hset, rfl⟩)))))
  | language ht =>
    exact Scaffold.mem_mentioned_baseClass.mpr (.inr (.inr (.inr (.inr (.inr (.inl ht))))))
  | compared hkey => exact hcompared List.mem_cons_self hkey
  | comparison ht hkey => exact hcompared (List.mem_cons_of_mem _ ht) hkey
  | extendsBase => exact List.mem_singleton_self _
  | extendsAccessBase => exact List.mem_singleton_self _
  | extendsRoot => exact hhead (by simp)
  | loaded => exact hhead (by simp)
  | access => exact hhead (by simp)
  | accessKey hkey => exact hhead (by simp [hkey])
  | anyKey hkey => exact hhead (by simp [hkey])
  | reference => exact hhead (by simp)
  | list hassociation => exact hfinder hassociation (by simp)
  | suppressed hassociation => exact hfinder hassociation (by simp)
  | finder hassociation htarget hname hkey =>
    refine hfinder hassociation ?_
    rw [← hname, Hierarchy.finderKey_of_mapped hrs htarget, hkey]
    simp [KeyRef.ofKey]
  | fallback hassociation hnone =>
    refine hfinder hassociation ?_
    rw [finderKey_type_of_none hrs hnone]
    simp

theorem writes_of_mentioned_baseClass {shown : Text.NameSet}
    (ht : t ∈ (Scaffold.ofPlaced h shown p).baseClass.mentioned) : p.Writes rs .base t := by
  rcases Scaffold.mem_mentioned_baseClass.mp ht with hparent | rfl | hfield | ⟨key, hkey, rfl⟩ |
    ⟨set, hset, rfl⟩ | hlanguage | ⟨hcompared, hkey⟩
  · obtain ⟨parent, hnext, rfl⟩ := Option.map_eq_some_iff.mp hparent
    exact .parent hnext
  · exact .serializable
  · rcases Scaffold.mem_mentioned_fields.mp hfield with ⟨key, hkey, rfl⟩ |
      ⟨component, hcomponent, rfl⟩ | ⟨property, hproperty, rfl⟩ |
      ⟨association, hassociation, rfl⟩ | ⟨set, hset, rfl | rfl⟩
    · exact .key (key?_of_own hkey)
    · exact .component hcomponent
    · exact .property hproperty
    · exact .association hassociation
    · exact .set hset
    · exact .element hset
  · obtain ⟨own, hown, rfl⟩ := key?_ofPlaced.mp hkey
    exact .key hown
  · exact .hashSet hset
  · exact .language hlanguage
  · rw [isSome_key?_ofPlaced] at hkey
    rcases List.mem_cons.mp hcompared with rfl | hcomparison
    · exact .compared hkey
    · exact .comparison hcomparison hkey

theorem writes_of_mentioned_accessBaseClass (hrs : Hierarchy.ofResources rs = .ok h)
    {shown : Text.NameSet} (ht : t ∈ (Scaffold.ofPlaced h shown p).accessBaseClass.mentioned) :
    p.Writes rs .accessBase t := by
  rcases Scaffold.mem_mentioned_accessBaseClass.mp ht with hhead | ⟨association, hassociation, ht⟩
  · rw [keyType_ofPlaced] at hhead
    simp only [List.mem_cons, List.not_mem_nil, or_false] at hhead
    rcases hhead with rfl | rfl | rfl | rfl | rfl
    · exact .extendsRoot
    · exact .loaded
    · cases hkey : p.key? with
      | none => exact .anyKey hkey
      | some key => exact .accessKey hkey
    · exact .access
    · exact .reference
  · simp only [List.mem_cons, List.not_mem_nil, or_false] at ht
    rcases ht with rfl | rfl | ht
    · exact .suppressed hassociation
    · exact .list hassociation
    · have htype : t = (h.finderKey association.target.simple).type := ht
      rcases finderKey_type_cases hrs association.target.simple with
        ⟨target, key, htarget, hname, hkey, hsame⟩ | ⟨hnone, hsame⟩
      · rw [htype, hsame]
        exact .finder hassociation htarget hname hkey
      · rw [htype, hsame]
        exact .fallback hassociation hnone

/-- The code of a file mentions what the documents say, and nothing else. -/
theorem mem_mentioned_iff_writes (hrs : Hierarchy.ofResources rs = .ok h)
    {shown : Text.NameSet} :
    t ∈ ((Scaffold.ofPlaced h shown p).sourceFile kind).declaration.mentioned ↔
      p.Writes rs kind t := by
  refine ⟨fun ht => ?_, fun hwrites => hwrites.mentioned hrs shown⟩
  cases kind with
  | base => exact writes_of_mentioned_baseClass ht
  | concrete =>
    rw [List.mem_singleton.mp ht]
    exact .extendsBase
  | accessBase => exact writes_of_mentioned_accessBaseClass hrs ht
  | access =>
    rw [List.mem_singleton.mp ht]
    exact .extendsAccessBase

/-- A file imports the types that it writes, as far as they live in packages. -/
theorem mem_imports_iff_writes (hrs : Hierarchy.ofResources rs = .ok h) {shown : Text.NameSet}
    {name : String} :
    name ∈ ((Scaffold.ofPlaced h shown p).sourceFile kind).imports.names ↔
      ∃ t, p.Writes rs kind t ∧ t.package?.isSome ∧ t.qualified = name := by
  rw [Scaffold.mem_imports_iff_mentioned]
  simp only [mem_mentioned_iff_writes hrs, TypeName.import?_eq_some_iff]

end Mapping.Placed

/-! ## Imports -/

namespace Java

theorem qualify_of_ne_empty {package : String} (h : package ≠ "") (name : String) :
    qualify package name = package ++ "." ++ name := by
  have hempty : package.isEmpty = false := by simpa using h
  rw [qualify, hempty]
  rfl

end Java

theorem ArtifactKind.package_ne_empty {entityPackage : String} (h : entityPackage ≠ "")
    (kind : ArtifactKind) : kind.package entityPackage ≠ "" := by
  cases kind <;> simp [package, subpackage?, Java.qualify_of_ne_empty h, h]

namespace Scaffold

open Java (importLine occurs_importLine)
open Text (NameSet Occurs)

variable {rs : List Resource} {h : Hierarchy} {p : Placed}

/-- The kinds of the other classes of the same entity that a file names in any case. -/
def siblings : ArtifactKind → List ArtifactKind
  | .base => []
  | .concrete => [.base]
  | .accessBase => [.concrete, .access]
  | .access => [.accessBase]

theorem writes_sibling {kind other : ArtifactKind} (hother : other ∈ siblings kind) :
    p.Writes rs kind (p.generated other) := by
  cases kind with
  | base => exact absurd hother List.not_mem_nil
  | concrete =>
    rw [List.mem_singleton.mp hother]
    exact .extendsBase
  | accessBase =>
    simp only [siblings, List.mem_cons, List.not_mem_nil, or_false] at hother
    rcases hother with rfl | rfl
    · exact .loaded
    · exact .access
  | access =>
    rw [List.mem_singleton.mp hother]
    exact .extendsAccessBase

theorem occurs_importLine_of_writes (hrs : Hierarchy.ofResources rs = .ok h) (shown : NameSet)
    {t : TypeName} {kind : ArtifactKind} (hwrites : p.Writes rs kind t)
    (hpackage : t.package?.isSome) (header? : Option String) :
    Occurs (importLine t.qualified) ((ofPlaced h shown p).artifact header? kind).contents := by
  have hmem : t.qualified ∈ ((ofPlaced h shown p).sourceFile kind).imports.names :=
    (Placed.mem_imports_iff_writes hrs).mpr ⟨t, hwrites, hpackage, rfl⟩
  exact (occurs_importLine hmem).append_left _

/-- The files of an entity import what they write. -/
structure ImportsClosed (s : Scaffold) (header? : Option String) (rs : List Resource) (p : Placed) :
    Prop where
  /-- The code of a file mentions the types that the documents say, and no others. -/
  mem_mentioned_iff : ∀ kind t,
    t ∈ (s.sourceFile kind).declaration.mentioned ↔ p.Writes rs kind t
  /-- A type that a file writes stands in its code by the simple name. -/
  simple : ∀ kind t, p.Writes rs kind t → Occurs t.simple (s.sourceFile kind).declaration.render
  /-- A type that a file writes and that lives in a package is imported by its qualified name. -/
  imported : ∀ kind t, p.Writes rs kind t → t.package?.isSome →
    Occurs (importLine t.qualified) (s.artifact header? kind).contents
  /-- Nothing else is imported. -/
  mem_imports_iff : ∀ kind name, name ∈ (s.sourceFile kind).imports.names ↔
    ∃ t, p.Writes rs kind t ∧ t.package?.isSome ∧ t.qualified = name
  /-- An artifact declares its class in its package. -/
  declared : ∀ kind, (s.sourceFile kind).package = (s.artifact header? kind).package ∧
    (s.sourceFile kind).declaration.name = (s.artifact header? kind).className
  /-- Files of one entity import each other as their artifacts declare. -/
  siblings_imported : ∀ kind, ∀ other ∈ siblings kind,
    Occurs (importLine ((s.artifact header? other).package ++ "." ++
      (s.artifact header? other).className)) (s.artifact header? kind).contents

theorem importsClosed (hrs : Hierarchy.ofResources rs = .ok h)
    (hpackage : p.entity.type.package?.getD "" ≠ "") (shown : NameSet) (header? : Option String) :
    (ofPlaced h shown p).ImportsClosed header? rs p := by
  refine ⟨fun kind t => Placed.mem_mentioned_iff_writes hrs, fun kind t hwrites => ?_,
    fun kind t hwrites ht => occurs_importLine_of_writes hrs shown hwrites ht header?,
    fun kind name => Placed.mem_imports_iff_writes hrs, fun kind => ?_, fun kind other hother => ?_⟩
  · exact ClassDeclaration.occurs_simple (hwrites.mentioned hrs shown)
  · cases kind <;> exact ⟨rfl, rfl⟩
  · have hqualified : (p.generated other).qualified =
        ((ofPlaced h shown p).artifact header? other).package ++ "." ++
          ((ofPlaced h shown p).artifact header? other).className :=
      Java.qualify_of_ne_empty (other.package_ne_empty hpackage) _
    rw [← hqualified]
    refine occurs_importLine_of_writes hrs shown (writes_sibling hother) ?_ header?
    rw [TypeName.package?_isSome_iff, hqualified]
    simp

/-- The artifacts of a plan are the files of mapped entities. Every type that such a file writes by
its simple name and that lives in a package is imported there, and nothing else is. -/
theorem written_types_are_imported {g : Generator}
    (hrs : Hierarchy.ofResources rs = .ok g.hierarchy) :
    (∀ a ∈ g.plan rs, ∃ p kind shown, Mapped rs p ∧
        a = (ofPlaced g.hierarchy shown p).artifact g.header? kind) ∧
      ∀ p : Placed, p.entity.type.package?.getD "" ≠ "" → ∀ shown,
        (ofPlaced g.hierarchy shown p).ImportsClosed g.header? rs p := by
  refine ⟨fun a ha => ?_, fun p hpackage shown => importsClosed hrs hpackage shown g.header?⟩
  rw [Generator.plan_eq_flatMap hrs] at ha
  obtain ⟨p, hp, ha⟩ := List.mem_flatMap.mp ha
  obtain ⟨kind, -, rfl⟩ := List.mem_map.mp ha
  exact ⟨p, kind, _, Mapping.mem_placed_iff.mp hp, rfl⟩

/-! ### A finder for a key in a package -/

theorem written_types_are_imported_school :
    let room : Placed := ⟨room, []⟩
    let files := ofPlaced Conversion.schoolGenerator.hierarchy .empty room
    let access := files.artifact Conversion.schoolGenerator.header? .accessBase
    Hierarchy.ofResources schoolResources = .ok Conversion.schoolGenerator.hierarchy ∧
      room.entity.type.package?.getD "" ≠ "" ∧
      room.Writes schoolResources .accessBase ⟨"java.math.BigInteger"⟩ ∧
      Occurs "BigInteger" files.accessBaseClass.render ∧
      Occurs "import java.math.BigInteger;\n" access.contents ∧
      Occurs "import school.dao.RoomDAO;\n" access.contents := by
  intro room files access
  have hresources :
      Hierarchy.ofResources schoolResources = .ok Conversion.schoolGenerator.hierarchy := rfl
  have hpackage : room.entity.type.package?.getD "" ≠ "" := by decide
  have hkey : (⟨student, [person]⟩ : Placed).key? =
      some ⟨"Number", ⟨"java.math.BigInteger"⟩, "number"⟩ := rfl
  have hwrites : room.Writes schoolResources .accessBase ⟨"java.math.BigInteger"⟩ :=
    .finder List.mem_cons_self mapped_student rfl hkey
  have hclosed := (written_types_are_imported hresources).2 room hpackage .empty
  have hsimple := hclosed.simple .accessBase _ hwrites
  have himported := hclosed.imported .accessBase _ hwrites (by decide)
  have hsibling := hclosed.siblings_imported .accessBase .access (by decide)
  have hkeyName : (⟨"java.math.BigInteger"⟩ : TypeName).simple = "BigInteger" := by decide
  have hkeyImport : importLine (⟨"java.math.BigInteger"⟩ : TypeName).qualified =
      "import java.math.BigInteger;\n" := by decide
  have hdeclared : ArtifactKind.access.package (room.entity.type.package?.getD "") = "school.dao" ∧
      ArtifactKind.access.className room.entity.className = "RoomDAO" := by decide
  have hsiblingImport : importLine ("school.dao" ++ "." ++ "RoomDAO") =
      "import school.dao.RoomDAO;\n" := by decide
  rw [hkeyName] at hsimple
  rw [hkeyImport] at himported
  change Occurs (importLine (ArtifactKind.access.package (room.entity.type.package?.getD "") ++
    "." ++ ArtifactKind.access.className room.entity.className)) access.contents at hsibling
  rw [hdeclared.1, hdeclared.2, hsiblingImport] at hsibling
  exact ⟨hresources, hpackage, hwrites, hsimple, himported, hsibling⟩

end Scaffold

end EntityScaffold
