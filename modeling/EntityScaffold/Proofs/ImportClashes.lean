import EntityScaffold.Proofs.ImportClosure

/-!
# Clashes of imports

A file writes every type by its simple name, whatever the package. The types that it would write in
any case hardly ever share a simple name: no two mapped classes do (`not_homonyms_of_mapped`), and
the names of the library are not those that are made up for generated classes. But the documents are
free to name types of several packages, and nothing keeps apart two of them that are written alike.
`Clash` lists the ways in which this comes about, and `OwnClash` those in which a type is written
like the class that the file declares. The lines of a file import two types under one name exactly
if there is a clash of types in packages; each simple name in the file stands for one type exactly
if there is no clash at all (`imports_unambiguous_iff`).
-/

namespace EntityScaffold

open Java (SourceFile TypeName importLine occurs_importLine qualify qualify_of_ne_empty
  simple_qualify)
open Mapping (Entity KeyComponent ManyToOne Mapped Placed Property Resource SetMember SimpleKey)
open Scaffold (comparisonTypes hashSetType listType memberTypes serializableType setType)
open Text (NameSet Occurs)

namespace Java

/-! ## Types that are written alike -/

/-- Two types have the same simple name, but are not the same. -/
structure TypeName.Homonyms (t t' : TypeName) : Prop where
  simple_eq : t.simple = t'.simple
  ne : t ≠ t'

theorem TypeName.eq_of_qualified_eq {t t' : TypeName} (h : t.qualified = t'.qualified) :
    t = t' := by
  cases t
  cases h
  rfl

theorem TypeName.Homonyms.symm {t t' : TypeName} (h : t.Homonyms t') : t'.Homonyms t :=
  ⟨h.simple_eq.symm, h.ne.symm⟩

namespace SourceFile

/-- No two imports have the same simple name. -/
def Unambiguous (f : SourceFile) : Prop :=
  ∀ name ∈ f.imports.names, ∀ other ∈ f.imports.names,
    (⟨name⟩ : TypeName).simple = (⟨other⟩ : TypeName).simple → name = other

instance (f : SourceFile) : Decidable f.Unambiguous :=
  inferInstanceAs (Decidable (∀ name ∈ f.imports.names, ∀ other ∈ f.imports.names,
    (⟨name⟩ : TypeName).simple = (⟨other⟩ : TypeName).simple → name = other))

/-- The class that the file declares. -/
def declared (f : SourceFile) : TypeName :=
  ⟨qualify f.package f.declaration.name⟩

/-- Each simple name in the file stands for one type, be it imported, of the same package, without a
package, or declared by the file itself. -/
def NamesApart (f : SourceFile) : Prop :=
  ∀ t ∈ f.declared :: f.declaration.mentioned, ∀ t' ∈ f.declared :: f.declaration.mentioned,
    t.simple = t'.simple → t = t'

instance (f : SourceFile) : Decidable f.NamesApart :=
  inferInstanceAs (Decidable (∀ t ∈ f.declared :: f.declaration.mentioned,
    ∀ t' ∈ f.declared :: f.declaration.mentioned, t.simple = t'.simple → t = t'))

theorem namesApart_iff {f : SourceFile} : f.NamesApart ↔
    (∀ t ∈ f.declaration.mentioned, ∀ t' ∈ f.declaration.mentioned, ¬ t.Homonyms t') ∧
      ∀ t ∈ f.declaration.mentioned, ¬ t.Homonyms f.declared := by
  constructor
  · intro h
    refine ⟨fun t ht t' ht' homonyms => homonyms.ne ?_, fun t ht homonyms => homonyms.ne ?_⟩
    · exact h t (List.mem_cons_of_mem _ ht) t' (List.mem_cons_of_mem _ ht') homonyms.simple_eq
    · exact h t (List.mem_cons_of_mem _ ht) _ List.mem_cons_self homonyms.simple_eq
  · rintro ⟨hwritten, hown⟩ t ht t' ht' hsimple
    by_contra hne
    have homonyms : t.Homonyms t' := ⟨hsimple, hne⟩
    rcases List.mem_cons.mp ht with rfl | ht
    · rcases List.mem_cons.mp ht' with rfl | ht'
      · exact hne rfl
      · exact hown t' ht' homonyms.symm
    · rcases List.mem_cons.mp ht' with rfl | ht'
      · exact hown t ht homonyms
      · exact hwritten t ht t' ht' homonyms

end SourceFile

theorem qualify_ne_qualify_qualify {sub : String} (hsub : sub ≠ "") (package name : String) :
    qualify package name ≠ qualify (qualify package sub) name := by
  intro heq
  have hlong : sub.length ≠ 0 := mt String.length_eq_zero_iff.mp hsub
  have hlength := congrArg String.length heq
  by_cases hpackage : package = ""
  · have hbare (name : String) : qualify "" name = name := rfl
    rw [hpackage, hbare, hbare, qualify_of_ne_empty hsub] at hlength
    simp only [String.length_append] at hlength
    omega
  · have hinner : qualify package sub ≠ "" := by
      rw [qualify_of_ne_empty hpackage]
      simp
    rw [qualify_of_ne_empty hinner, qualify_of_ne_empty hpackage, qualify_of_ne_empty hpackage]
      at hlength
    simp only [String.length_append] at hlength
    omega

end Java

theorem ArtifactKind.eq_of_className_eq {kind kind' : ArtifactKind} {name : String}
    (h : kind.className name = kind'.className name) : kind = kind' := by
  have hlength := congrArg String.length h
  have hbase : "Base".length = 4 := by decide
  have haccess : "DAO".length = 3 := by decide
  cases kind <;> cases kind' <;> simp only [className, String.length_append] at hlength ⊢ <;> omega

namespace Mapping.Placed

/-! ## Where the types of a file come from -/

/-- The documents name a type that the file of a kind writes: one of a member of the entity, of its
key, or of the key of the target of a finder. -/
inductive Names (rs : List Resource) (p : Placed) : ArtifactKind → TypeName → Prop
  | key {key : SimpleKey} (h : p.key? = some key) : Names rs p .base key.type
  | component {component : KeyComponent} (h : component ∈ p.entity.keyComponents) :
      Names rs p .base component.type
  | property {property : Property} (h : property ∈ p.entity.properties) :
      Names rs p .base property.type
  | association {association : ManyToOne} (h : association ∈ p.entity.manyToOnes) :
      Names rs p .base association.target
  | element {set : SetMember} (h : set ∈ p.entity.sets) : Names rs p .base set.element
  | accessKey {key : SimpleKey} (h : p.key? = some key) : Names rs p .accessBase key.type
  | finder {association : ManyToOne} {target : Placed} {key : SimpleKey}
      (h : association ∈ p.entity.columnManyToOnes) (htarget : Mapped rs target)
      (hname : target.entity.className = association.target.simple)
      (hkey : target.key? = some key) : Names rs p .accessBase key.type

/-- The types of the library and of the language that generated code uses by itself. -/
def fixedTypes : List TypeName :=
  [serializableType, setType, hashSetType, listType, ⟨"Class"⟩, ⟨"SuppressWarnings"⟩,
    KeyRef.fallback.type] ++ memberTypes ++ comparisonTypes

/-- The class of the entity and the one that it is derived from. -/
def classTypes (p : Placed) : List TypeName :=
  p.generated .concrete :: p.parent?.toList.map (·.type)

/-- Two types that the file of a kind writes have the same simple name. -/
inductive Clash (rs : List Resource) (p : Placed) : ArtifactKind → TypeName → TypeName → Prop
  /-- The documents name a type that is written like another one. -/
  | named {kind : ArtifactKind} {t t' : TypeName} (ht : p.Names rs kind t)
      (ht' : p.Writes rs kind t') (homonyms : t.Homonyms t') : Clash rs p kind t t'
  /-- The entity, or the one that it is derived from, is called like a type of the library or of the
  language. -/
  | fixed {kind : ArtifactKind} {t t' : TypeName} (hclass : t ∈ p.classTypes)
      (ht : p.Writes rs kind t) (hfixed : t' ∈ fixedTypes) (ht' : p.Writes rs kind t')
      (homonyms : t.Homonyms t') : Clash rs p kind t t'
  /-- The entity is called like the class from which access objects descend. -/
  | root (hname : p.entity.className = "_RootDAO") :
      Clash rs p .accessBase (p.generated .concrete) p.rootAccess

/-- A type that the file of a kind writes has the simple name of the class that it declares. -/
inductive OwnClash (rs : List Resource) (p : Placed) : ArtifactKind → TypeName → Prop
  | named {kind : ArtifactKind} {t : TypeName} (ht : p.Names rs kind t)
      (homonyms : t.Homonyms (p.generated kind)) : OwnClash rs p kind t
  /-- The entity is derived from another one that is called like its base class. -/
  | parent {parent : Entity} (h : p.parent? = some parent)
      (hname : parent.className = "Base" ++ p.entity.className)
      (hne : parent.type ≠ p.generated .base) : OwnClash rs p .base parent.type

variable {rs : List Resource} {p : Placed} {kind : ArtifactKind} {t t' : TypeName}

theorem Names.writes (h : p.Names rs kind t) : p.Writes rs kind t := by
  cases h with
  | key h => exact .key h
  | component h => exact .component h
  | property h => exact .property h
  | association h => exact .association h
  | element h => exact .element h
  | accessKey h => exact .accessKey h
  | finder h htarget hname hkey => exact .finder h htarget hname hkey

theorem mem_fixedTypes_of_mem_memberTypes (h : t ∈ memberTypes) : t ∈ fixedTypes :=
  List.mem_append_left _ (List.mem_append_right _ h)

theorem mem_fixedTypes_of_mem_comparisonTypes (h : t ∈ comparisonTypes) : t ∈ fixedTypes :=
  List.mem_append_right _ h

theorem writes_base_cases (h : p.Writes rs .base t) :
    p.Names rs .base t ∨ t ∈ fixedTypes ∨ t ∈ p.classTypes := by
  cases h with
  | serializable => exact .inr (.inl (by decide))
  | set _ => exact .inr (.inl (by decide))
  | hashSet _ => exact .inr (.inl (by decide))
  | language h => exact .inr (.inl (mem_fixedTypes_of_mem_memberTypes h))
  | comparison h _ => exact .inr (.inl (mem_fixedTypes_of_mem_comparisonTypes h))
  | parent h => exact .inr (.inr (by simp [classTypes, h]))
  | compared _ => exact .inr (.inr List.mem_cons_self)
  | key h => exact .inl (.key h)
  | component h => exact .inl (.component h)
  | property h => exact .inl (.property h)
  | association h => exact .inl (.association h)
  | element h => exact .inl (.element h)

theorem writes_accessBase_cases (h : p.Writes rs .accessBase t) :
    p.Names rs .accessBase t ∨ t ∈ fixedTypes ∨ t = p.generated .concrete ∨
      t = p.generated .access ∨ t = p.rootAccess := by
  cases h with
  | anyKey _ => exact .inr (.inl (by decide))
  | list _ => exact .inr (.inl (by decide))
  | reference => exact .inr (.inl (by decide))
  | suppressed _ => exact .inr (.inl (by decide))
  | fallback _ _ => exact .inr (.inl (by decide))
  | loaded => exact .inr (.inr (.inl rfl))
  | access => exact .inr (.inr (.inr (.inl rfl)))
  | extendsRoot => exact .inr (.inr (.inr (.inr rfl)))
  | accessKey h => exact .inl (.accessKey h)
  | finder h htarget hname hkey => exact .inl (.finder h htarget hname hkey)

/-! ## Simple names that are made up -/

theorem simple_generated (p : Placed) (kind : ArtifactKind) :
    (p.generated kind).simple = kind.className p.entity.className := by
  have hdot : '.' ∉ p.entity.className.toList := p.entity.type.dot_not_mem_simple
  refine simple_qualify ?_
  cases kind <;> simpa [ArtifactKind.className] using hdot

theorem simple_rootAccess (p : Placed) : p.rootAccess.simple = "_RootDAO" :=
  simple_qualify (by decide)

theorem not_homonyms_of_mem_fixedTypes (ht : t ∈ fixedTypes) (ht' : t' ∈ fixedTypes) :
    ¬ t.Homonyms t' := by
  have hdistinct : (fixedTypes.map (·.simple)).Nodup := by decide
  exact fun homonyms => homonyms.ne (List.inj_on_of_nodup_map hdistinct ht ht' homonyms.simple_eq)

/-- No type of the library is called like an access object. -/
theorem not_homonyms_of_suffix (hsuffix : "DAO".toList <:+ t.simple.toList)
    (ht' : t' ∈ fixedTypes) : ¬ t.Homonyms t' := by
  have hfixed : ∀ t ∈ fixedTypes, ¬ "DAO".toList <:+ t.simple.toList := by decide
  intro homonyms
  rw [homonyms.simple_eq] at hsuffix
  exact hfixed t' ht' hsuffix

/-- The classes that are generated for an entity have different names. -/
theorem not_homonyms_generated (p : Placed) (kind kind' : ArtifactKind) :
    ¬ (p.generated kind).Homonyms (p.generated kind') := by
  intro homonyms
  have hname := homonyms.simple_eq
  rw [simple_generated, simple_generated] at hname
  exact homonyms.ne (congrArg p.generated (ArtifactKind.eq_of_className_eq hname))

theorem not_homonyms_access_root : ¬ (p.generated .access).Homonyms p.rootAccess := by
  intro homonyms
  have hsimple := homonyms.simple_eq
  rw [simple_generated, simple_rootAccess] at hsimple
  refine homonyms.ne ?_
  unfold generated rootAccess ArtifactKind.type
  rw [hsimple]

/-- Beside the class of the entity itself, the types that the base class of the access object writes
in any case are not written alike. -/
theorem not_homonyms_of_companions
    (ht : t ∈ fixedTypes ∨ t = p.generated .access ∨ t = p.rootAccess)
    (ht' : t' ∈ fixedTypes ∨ t' = p.generated .access ∨ t' = p.rootAccess) :
    ¬ t.Homonyms t' := by
  have haccess : "DAO".toList <:+ (p.generated .access).simple.toList := by
    rw [simple_generated, ArtifactKind.className, String.toList_append]
    exact List.suffix_append _ _
  have hroot : "DAO".toList <:+ p.rootAccess.simple.toList := by
    rw [simple_rootAccess]
    decide
  rcases ht with hfixed | rfl | rfl
  · rcases ht' with hfixed' | rfl | rfl
    · exact not_homonyms_of_mem_fixedTypes hfixed hfixed'
    · exact fun homonyms => not_homonyms_of_suffix haccess hfixed homonyms.symm
    · exact fun homonyms => not_homonyms_of_suffix hroot hfixed homonyms.symm
  · rcases ht' with hfixed' | rfl | rfl
    · exact not_homonyms_of_suffix haccess hfixed'
    · exact fun homonyms => homonyms.ne rfl
    · exact not_homonyms_access_root
  · rcases ht' with hfixed' | rfl | rfl
    · exact not_homonyms_of_suffix hroot hfixed'
    · exact fun homonyms => not_homonyms_access_root homonyms.symm
    · exact fun homonyms => homonyms.ne rfl

/-- A class called like the one from which access objects descend lives in another package. -/
theorem generated_concrete_ne_rootAccess (hname : p.entity.className = "_RootDAO") :
    p.generated .concrete ≠ p.rootAccess := by
  intro heq
  have hqualified := congrArg TypeName.qualified heq
  unfold generated rootAccess ArtifactKind.type at hqualified
  simp only [ArtifactKind.package, ArtifactKind.subpackage?, ArtifactKind.className, hname]
    at hqualified
  exact Java.qualify_ne_qualify_qualify (by decide) _ _ hqualified

theorem homonyms_concrete_root_iff :
    (p.generated .concrete).Homonyms p.rootAccess ↔ p.entity.className = "_RootDAO" := by
  have hsimple : (p.generated .concrete).simple = p.rootAccess.simple ↔
      p.entity.className = "_RootDAO" := by
    rw [simple_generated, simple_rootAccess]
    rfl
  exact ⟨fun homonyms => hsimple.mp homonyms.simple_eq,
    fun hname => ⟨hsimple.mpr hname, generated_concrete_ne_rootAccess hname⟩⟩

/-! ## Clashes are where homonyms come from -/

theorem Clash.homonyms (h : p.Clash rs kind t t') :
    p.Writes rs kind t ∧ p.Writes rs kind t' ∧ t.Homonyms t' := by
  cases h with
  | named ht ht' homonyms => exact ⟨ht.writes, ht', homonyms⟩
  | fixed _ ht _ ht' homonyms => exact ⟨ht, ht', homonyms⟩
  | root hname => exact ⟨.loaded, .extendsRoot, homonyms_concrete_root_iff.mpr hname⟩

theorem clash_of_homonyms_concrete (ht : p.Writes rs .accessBase t)
    (hcompanion : t ∈ fixedTypes ∨ t = p.generated .access ∨ t = p.rootAccess)
    (homonyms : (p.generated .concrete).Homonyms t) :
    p.Clash rs .accessBase (p.generated .concrete) t := by
  rcases hcompanion with hfixed | rfl | rfl
  · exact .fixed List.mem_cons_self .loaded hfixed ht homonyms
  · exact absurd homonyms (not_homonyms_generated p _ _)
  · exact .root (homonyms_concrete_root_iff.mp homonyms)

theorem clash_accessBase (ht : p.Writes rs .accessBase t) (ht' : p.Writes rs .accessBase t')
    (homonyms : t.Homonyms t') :
    p.Clash rs .accessBase t t' ∨ p.Clash rs .accessBase t' t := by
  rcases writes_accessBase_cases ht with hnamed | hrest
  · exact .inl (.named hnamed ht' homonyms)
  rcases writes_accessBase_cases ht' with hnamed' | hrest'
  · exact .inr (.named hnamed' ht homonyms.symm)
  rw [or_left_comm] at hrest hrest'
  rcases hrest with rfl | hcompanion
  · rcases hrest' with rfl | hcompanion'
    · exact absurd rfl homonyms.ne
    · exact .inl (clash_of_homonyms_concrete ht' hcompanion' homonyms)
  · rcases hrest' with rfl | hcompanion'
    · exact .inr (clash_of_homonyms_concrete ht hcompanion homonyms.symm)
    · exact absurd homonyms (not_homonyms_of_companions hcompanion hcompanion')

/-! ## Clashes with the class of the file -/

/-- Nothing that generated code uses in any case is called like a base class. -/
theorem not_homonyms_of_based (ht : t ∈ fixedTypes ∨ t = p.rootAccess)
    (hbased : "Base".toList <+: t'.simple.toList) : ¬ t.Homonyms t' := by
  have hfixed : ∀ t ∈ fixedTypes, ¬ "Base".toList <+: t.simple.toList := by decide
  intro homonyms
  rw [← homonyms.simple_eq] at hbased
  rcases ht with ht | rfl
  · exact hfixed t ht hbased
  · rw [simple_rootAccess] at hbased
    exact absurd hbased (by decide)

theorem OwnClash.homonyms (h : p.OwnClash rs kind t) :
    p.Writes rs kind t ∧ t.Homonyms (p.generated kind) := by
  cases h with
  | named ht homonyms => exact ⟨ht.writes, homonyms⟩
  | parent hparent hname hne =>
    refine ⟨.parent hparent, ?_, hne⟩
    rw [simple_generated]
    exact hname

theorem ownClash_base (ht : p.Writes rs .base t) (homonyms : t.Homonyms (p.generated .base)) :
    p.OwnClash rs .base t := by
  have hname := homonyms.simple_eq
  rw [simple_generated, ArtifactKind.className] at hname
  rcases writes_base_cases ht with hnamed | hfixed | hclass
  · exact .named hnamed homonyms
  · refine absurd homonyms (not_homonyms_of_based (p := p) (.inl hfixed) ?_)
    rw [simple_generated, ArtifactKind.className, String.toList_append]
    exact List.prefix_append _ _
  · rcases List.mem_cons.mp hclass with rfl | hparent
    · exact absurd homonyms (not_homonyms_generated p _ _)
    · obtain ⟨parent, hnext, rfl⟩ := List.mem_map.mp hparent
      exact .parent (Option.mem_toList.mp hnext) hname homonyms.ne

theorem ownClash_accessBase (ht : p.Writes rs .accessBase t)
    (homonyms : t.Homonyms (p.generated .accessBase)) : p.OwnClash rs .accessBase t := by
  have hbased : "Base".toList <+: (p.generated .accessBase).simple.toList := by
    rw [simple_generated, ArtifactKind.className, String.append_assoc, String.toList_append]
    exact List.prefix_append _ _
  rcases writes_accessBase_cases ht with hnamed | hfixed | rfl | rfl | hroot
  · exact .named hnamed homonyms
  · exact absurd homonyms (not_homonyms_of_based (p := p) (.inl hfixed) hbased)
  · exact absurd homonyms (not_homonyms_generated p _ _)
  · exact absurd homonyms (not_homonyms_generated p _ _)
  · exact absurd homonyms (not_homonyms_of_based (.inr hroot) hbased)

/-- A file writes a type like its own class exactly if it has a clash with this class. -/
theorem ownClash_iff :
    p.OwnClash rs kind t ↔ p.Writes rs kind t ∧ t.Homonyms (p.generated kind) := by
  refine ⟨OwnClash.homonyms, ?_⟩
  rintro ⟨ht, homonyms⟩
  cases kind with
  | base => exact ownClash_base ht homonyms
  | accessBase => exact ownClash_accessBase ht homonyms
  | concrete =>
    -- the hand-written classes write a single type, a class of the same entity
    cases ht
    exact absurd homonyms (not_homonyms_generated p _ _)
  | access =>
    cases ht
    exact absurd homonyms (not_homonyms_generated p _ _)

section Accepted

variable {h : Hierarchy} (hrs : Hierarchy.ofResources rs = .ok h)

include hrs

/-- The types of two mapped entities are never written alike. -/
theorem not_homonyms_of_mapped {q : Placed} (hp : Mapped rs p) (hq : Mapped rs q) :
    ¬ p.entity.type.Homonyms q.entity.type := by
  intro homonyms
  have hsame := hp.unique hrs hq homonyms.simple_eq
  exact homonyms.ne (congrArg (·.entity.type) hsame)

/-- A class and the one that it is derived from have different names. -/
theorem not_homonyms_of_mem_classTypes (hp : Mapped rs p) (ht : t ∈ p.classTypes)
    (ht' : t' ∈ p.classTypes) : ¬ t.Homonyms t' := by
  have hparent {t : TypeName} (ht : t ∈ p.parent?.toList.map (·.type)) :
      ¬ (p.generated .concrete).Homonyms t := by
    intro homonyms
    obtain ⟨parent, hnext, rfl⟩ := List.mem_map.mp ht
    obtain ⟨e, above⟩ := p
    cases above with
    | nil => exact absurd hnext List.not_mem_nil
    | cons outer rest =>
      obtain rfl : parent = outer := List.mem_singleton.mp hnext
      have hname := homonyms.simple_eq
      rw [simple_generated] at hname
      have hsame := hp.unique hrs hp.outer hname
      exact absurd (congrArg (·.above.length) hsame) (Nat.succ_ne_self _)
  rcases List.mem_cons.mp ht with rfl | ht
  · rcases List.mem_cons.mp ht' with rfl | ht'
    · exact fun homonyms => homonyms.ne rfl
    · exact hparent ht'
  · rcases List.mem_cons.mp ht' with rfl | ht'
    · exact fun homonyms => hparent ht homonyms.symm
    · obtain ⟨parent, hnext, rfl⟩ := List.mem_map.mp ht
      obtain ⟨parent', hnext', rfl⟩ := List.mem_map.mp ht'
      have hsame := (Option.mem_toList.mp hnext).symm.trans (Option.mem_toList.mp hnext')
      exact fun homonyms => homonyms.ne (congrArg (·.type) (Option.some.inj hsame))

theorem clash_base (hp : Mapped rs p) (ht : p.Writes rs .base t) (ht' : p.Writes rs .base t')
    (homonyms : t.Homonyms t') : p.Clash rs .base t t' ∨ p.Clash rs .base t' t := by
  rcases writes_base_cases ht with hnamed | hfixed | hclass
  · exact .inl (.named hnamed ht' homonyms)
  · rcases writes_base_cases ht' with hnamed' | hfixed' | hclass'
    · exact .inr (.named hnamed' ht homonyms.symm)
    · exact absurd homonyms (not_homonyms_of_mem_fixedTypes hfixed hfixed')
    · exact .inr (.fixed hclass' ht' hfixed ht homonyms.symm)
  · rcases writes_base_cases ht' with hnamed' | hfixed' | hclass'
    · exact .inr (.named hnamed' ht homonyms.symm)
    · exact .inl (.fixed hclass ht hfixed' ht' homonyms)
    · exact absurd homonyms (not_homonyms_of_mem_classTypes hrs hp hclass hclass')

/-- Two types that a file writes alike have a clash, the one way or the other. -/
theorem clash_of_homonyms (hp : Mapped rs p) (ht : p.Writes rs kind t) (ht' : p.Writes rs kind t')
    (homonyms : t.Homonyms t') : p.Clash rs kind t t' ∨ p.Clash rs kind t' t := by
  cases kind with
  | base => exact clash_base hrs hp ht ht' homonyms
  | accessBase => exact clash_accessBase ht ht' homonyms
  | concrete =>
    cases ht
    cases ht'
    exact absurd rfl homonyms.ne
  | access =>
    cases ht
    cases ht'
    exact absurd rfl homonyms.ne

end Accepted

end Mapping.Placed

namespace Scaffold

section Files

variable {rs : List Resource} {h : Hierarchy} {p : Placed} (hrs : Hierarchy.ofResources rs = .ok h)
  (hp : Mapped rs p) (shown : NameSet) (kind : ArtifactKind)

include hrs hp

/-- Import lines contradict each other exactly if two types in packages clash. -/
theorem unambiguous_iff_not_clash :
    ((ofPlaced h shown p).sourceFile kind).Unambiguous ↔
      ¬ ∃ t t', p.Clash rs kind t t' ∧ t.package?.isSome ∧ t'.package?.isSome := by
  constructor
  · rintro hunambiguous ⟨t, t', hclash, hpackage, hpackage'⟩
    obtain ⟨ht, ht', homonyms⟩ := hclash.homonyms
    have hsame := hunambiguous t.qualified
      ((Placed.mem_imports_iff_writes hrs).mpr ⟨t, ht, hpackage, rfl⟩) t'.qualified
      ((Placed.mem_imports_iff_writes hrs).mpr ⟨t', ht', hpackage', rfl⟩) homonyms.simple_eq
    exact homonyms.ne (TypeName.eq_of_qualified_eq hsame)
  · intro hnone name hname other hother hsimple
    obtain ⟨t, ht, hpackage, rfl⟩ := (Placed.mem_imports_iff_writes hrs).mp hname
    obtain ⟨t', ht', hpackage', rfl⟩ := (Placed.mem_imports_iff_writes hrs).mp hother
    by_contra hne
    have homonyms : t.Homonyms t' := ⟨hsimple, fun heq => hne (congrArg TypeName.qualified heq)⟩
    rcases Placed.clash_of_homonyms hrs hp ht ht' homonyms with hclash | hclash
    · exact hnone ⟨t, t', hclash, hpackage, hpackage'⟩
    · exact hnone ⟨t', t, hclash, hpackage', hpackage⟩

/-- Simple names stand for one type exactly if no types clash, nor any with the class of the
file. -/
theorem namesApart_iff_not_clash :
    ((ofPlaced h shown p).sourceFile kind).NamesApart ↔
      (¬ ∃ t t', p.Clash rs kind t t') ∧ ¬ ∃ t, p.OwnClash rs kind t := by
  have hdeclared : ((ofPlaced h shown p).sourceFile kind).declared = p.generated kind := by
    cases kind <;> rfl
  rw [SourceFile.namesApart_iff, hdeclared]
  simp only [Placed.mem_mentioned_iff_writes hrs, Placed.ownClash_iff]
  constructor
  · rintro ⟨hwritten, hown⟩
    refine ⟨?_, ?_⟩
    · rintro ⟨t, t', hclash⟩
      obtain ⟨ht, ht', homonyms⟩ := hclash.homonyms
      exact hwritten t ht t' ht' homonyms
    · rintro ⟨t, ht, homonyms⟩
      exact hown t ht homonyms
  · rintro ⟨hnone, hnoneOwn⟩
    refine ⟨fun t ht t' ht' homonyms => ?_, fun t ht homonyms => hnoneOwn ⟨t, ht, homonyms⟩⟩
    rcases Placed.clash_of_homonyms hrs hp ht ht' homonyms with hclash | hclash
    · exact hnone ⟨t, t', hclash⟩
    · exact hnone ⟨t', t, hclash⟩

end Files

/-- The import lines in a file of a mapped entity are unambiguous exactly if no two types in
packages clash in it; with a clash, two lines of the text import different types under one name.
Each simple name in the file stands for one type exactly if there is no clash at all, be it of types
in packages or of others, and none with the class that the file declares. Two classes that are
mapped never have part in a clash together. -/
theorem imports_unambiguous_iff {rs : List Resource} {h : Hierarchy} {p : Placed}
    (hrs : Hierarchy.ofResources rs = .ok h) (hp : Mapped rs p) (shown : NameSet)
    (kind : ArtifactKind) (header? : Option String) :
    let s := ofPlaced h shown p
    let f := s.sourceFile kind
    (f.Unambiguous ↔
        ¬ ∃ t t', p.Clash rs kind t t' ∧ t.package?.isSome ∧ t'.package?.isSome) ∧
      (∀ t t', p.Clash rs kind t t' → t.package?.isSome → t'.package?.isSome →
        t.simple = t'.simple ∧ t.qualified ≠ t'.qualified ∧
          Occurs (importLine t.qualified) (s.artifact header? kind).contents ∧
          Occurs (importLine t'.qualified) (s.artifact header? kind).contents) ∧
      (f.NamesApart ↔ (¬ ∃ t t', p.Clash rs kind t t') ∧ ¬ ∃ t, p.OwnClash rs kind t) ∧
      ∀ q r, Mapped rs q → Mapped rs r → ¬ q.entity.type.Homonyms r.entity.type := by
  intro s f
  refine ⟨unambiguous_iff_not_clash hrs hp shown kind, fun t t' hclash hpackage hpackage' => ?_,
    namesApart_iff_not_clash hrs hp shown kind,
    fun q r hq hr => Placed.not_homonyms_of_mapped hrs hq hr⟩
  obtain ⟨ht, ht', homonyms⟩ := hclash.homonyms
  exact ⟨homonyms.simple_eq, fun heq => homonyms.ne (TypeName.eq_of_qualified_eq heq),
    occurs_importLine_of_writes hrs shown ht hpackage header?,
    occurs_importLine_of_writes hrs shown ht' hpackage' header?⟩

/-- The finder of `Room` brings a type of the library into its file, and still there is no clash. -/
theorem imports_unambiguous_iff_school :
    let room : Placed := ⟨room, []⟩
    let f := (ofPlaced schoolHierarchy .empty room).sourceFile .accessBase
    Hierarchy.ofResources schoolResources = .ok schoolHierarchy ∧ Mapped schoolResources room ∧
      room.Writes schoolResources .accessBase ⟨"java.math.BigInteger"⟩ ∧ f.Unambiguous ∧
      f.NamesApart ∧ ¬ ∃ t t', room.Clash schoolResources .accessBase t t' := by
  intro room f
  have hresources : Hierarchy.ofResources schoolResources = .ok schoolHierarchy := rfl
  have hroom : Mapped schoolResources room := ⟨_, List.mem_cons_self, .root List.mem_cons_self⟩
  have hkey : (⟨student, [person]⟩ : Placed).key? =
      some ⟨"Number", ⟨"java.math.BigInteger"⟩, "number"⟩ := rfl
  have hunambiguous : f.Unambiguous := by decide
  have hapart : f.NamesApart := by decide
  obtain ⟨-, -, hiff, -⟩ := imports_unambiguous_iff hresources hroom .empty .accessBase none
  exact ⟨hresources, hroom, .finder List.mem_cons_self mapped_student rfl hkey, hunambiguous,
    hapart, (hiff.mp hapart).1⟩

/-! ### Two types of dates -/

/-- A class with a date of the library, and with a date of a type from its own package. -/
def datedRoom : Entity :=
  { room with
    manyToOnes := []
    properties := [
      ⟨"Built", .ofToken "java.util.Date" (some "school"), .column "built"⟩,
      ⟨"Lecture", .ofToken "Date" (some "school"), .column "lecture"⟩] }

/-- The document is accepted, and the base class imports both types. -/
theorem imports_clash_dates :
    ∃ h, Hierarchy.ofResources [⟨"Room.hbm.xml", some "school", [datedRoom]⟩] = .ok h ∧
      ∀ (shown : NameSet) (header? : Option String),
        let s := ofPlaced h shown ⟨datedRoom, []⟩
        ¬ (s.sourceFile .base).Unambiguous ∧
          Occurs "import java.util.Date;\n" (s.artifact header? .base).contents ∧
          Occurs "import school.Date;\n" (s.artifact header? .base).contents ∧
          (⟨"java.util.Date"⟩ : TypeName).simple = (⟨"school.Date"⟩ : TypeName).simple := by
  have hresources : Hierarchy.ofResources [⟨"Room.hbm.xml", some "school", [datedRoom]⟩] =
      .ok ⟨[⟨"Room", none, none⟩], by decide⟩ := rfl
  refine ⟨_, hresources, fun shown header? => ?_⟩
  intro s
  have hwrites (t : TypeName) (ht : t ∈ datedRoom.properties.map (·.type)) :
      (⟨datedRoom, []⟩ : Placed).Writes [⟨"Room.hbm.xml", some "school", [datedRoom]⟩] .base t := by
    obtain ⟨property, hproperty, rfl⟩ := List.mem_map.mp ht
    exact .property hproperty
  have hlibrary := hwrites ⟨"java.util.Date"⟩ (by decide)
  have hown := hwrites ⟨"school.Date"⟩ (by decide)
  have hsimple : (⟨"java.util.Date"⟩ : TypeName).simple = (⟨"school.Date"⟩ : TypeName).simple := by
    decide
  have hlibraryLine := occurs_importLine_of_writes hresources shown hlibrary (by decide) header?
  have hownLine := occurs_importLine_of_writes hresources shown hown (by decide) header?
  have hlines : importLine "java.util.Date" = "import java.util.Date;\n" ∧
      importLine "school.Date" = "import school.Date;\n" := by decide
  rw [hlines.1] at hlibraryLine
  rw [hlines.2] at hownLine
  refine ⟨fun hunambiguous => ?_, hlibraryLine, hownLine, hsimple⟩
  have hsame := hunambiguous "java.util.Date"
    ((Placed.mem_imports_iff_writes hresources).mpr ⟨_, hlibrary, by decide, rfl⟩) "school.Date"
    ((Placed.mem_imports_iff_writes hresources).mpr ⟨_, hown, by decide, rfl⟩) hsimple
  exact absurd hsame (by decide)

end Scaffold

end EntityScaffold
