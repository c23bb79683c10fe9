import EntityScaffold.Scaffold.Base

/-!
# The members of a base class

A base class is put together from groups of fields, constructors, accessors and methods of identity.
Here are its fields, methods and constructors in order (`members_baseClass`, `methods_baseClass`),
and what can be said of each of its accessors (`mem_accessorGroups_iff`,
`cases_of_mem_accessorGroups`) and of its methods of identity (`cases_of_mem_identityMethods`).
Which constructors it has, and which methods of a given name, is read off that.
-/

namespace EntityScaffold

theorem mem_of_mem_intersperse {α : Type} {sep a : α} {as : List α} (h : a ∈ as.intersperse sep) :
    a = sep ∨ a ∈ as := by
  induction as with
  | nil => exact absurd h List.not_mem_nil
  | cons first rest ih =>
    cases rest with
    | nil => exact .inr h
    | cons second rest =>
      rw [List.intersperse_cons_cons, List.mem_cons, List.mem_cons] at h
      rcases h with rfl | rfl | h
      · exact .inr List.mem_cons_self
      · exact .inl rfl
      · exact (ih h).imp_right (List.mem_cons_of_mem first)

namespace Java

/-- The method or constructor that a member is, if it is one. -/
def Member.method? : Member → Option Method
  | .field _ => none
  | .method m => some m

/-- The methods and constructors of a class. -/
def ClassDeclaration.methods (c : ClassDeclaration) : List Method :=
  c.members.filterMap Member.method?

theorem ClassDeclaration.mem_methods_iff {c : ClassDeclaration} {m : Method} :
    m ∈ c.methods ↔ .method m ∈ c.members := by
  unfold methods
  rw [List.mem_filterMap]
  constructor
  · rintro ⟨member, hmember, hmethod⟩
    cases member with
    | field f => cases hmethod
    | method other =>
      cases hmethod
      exact hmember
  · intro hmember
    exact ⟨.method m, hmember, rfl⟩

theorem filterMap_method?_field (fs : List Field) :
    (fs.map Member.field).filterMap Member.method? = [] := by
  induction fs with
  | nil => rfl
  | cons f fs ih => rw [List.map_cons, List.filterMap_cons_none rfl, ih]

theorem filterMap_method?_method (ms : List Method) :
    (ms.map Member.method).filterMap Member.method? = ms := by
  induction ms with
  | nil => rfl
  | cons m ms ih =>
    have hfirst : Member.method? (.method m) = some m := rfl
    rw [List.map_cons, List.filterMap_cons_some hfirst, ih]

end Java

namespace Scaffold

open Java

/-! ## Accessors and methods of identity -/

theorem cases_of_mem_accessors {f : AccessedField} {m : Method} (h : m ∈ f.accessors) :
    (∃ start ∈ ["is", "get"], m = f.reader (start ++ f.name)) ∨ m = f.setter := by
  unfold AccessedField.accessors at h
  rcases List.mem_append.mp h with h | h
  · left
    split at h
    · exact ⟨"is", by decide, List.mem_singleton.mp h⟩
    · exact absurd h List.not_mem_nil
  · rcases List.mem_cons.mp h with rfl | h
    · exact .inl ⟨"get", by decide, rfl⟩
    · exact .inr (List.mem_singleton.mp h)

theorem mem_accessorGroups_iff {s : Scaffold} {m : Method} :
    m ∈ s.accessorGroups.flatten ↔
      (∃ f ∈ fields s.entity, m ∈ f.accessors) ∨ ∃ set ∈ s.entity.sets, m = adder set := by
  unfold accessorGroups fields associationFields
  simp only [List.mem_flatten, List.mem_append, List.mem_map, setMethods]
  constructor
  · rintro ⟨_, ⟨f, hf, rfl⟩ | ⟨set, hset, rfl⟩, hm⟩
    · exact .inl ⟨f, hf.imp_right .inl, hm⟩
    · rcases List.mem_append.mp hm with hm | hm
      · exact .inl ⟨setField set, .inr (.inr ⟨set, hset, rfl⟩), hm⟩
      · exact .inr ⟨set, hset, List.mem_singleton.mp hm⟩
  · rintro (⟨f, hf | hf | ⟨set, hset, rfl⟩, hm⟩ | ⟨set, hset, rfl⟩)
    · exact ⟨_, .inl ⟨f, .inl hf, rfl⟩, hm⟩
    · exact ⟨_, .inl ⟨f, .inr hf, rfl⟩, hm⟩
    · exact ⟨_, .inr ⟨set, hset, rfl⟩, List.mem_append_left _ hm⟩
    · exact ⟨_, .inr ⟨set, hset, rfl⟩, List.mem_append_right _ List.mem_cons_self⟩

theorem cases_of_mem_accessorGroups {s : Scaffold} {m : Method}
    (h : m ∈ s.accessorGroups.flatten) :
    (∃ f : AccessedField, ∃ start ∈ ["is", "get"], m = f.reader (start ++ f.name)) ∨
      (∃ f : AccessedField, m = f.setter) ∨ ∃ set, m = adder set := by
  rcases mem_accessorGroups_iff.mp h with ⟨f, -, hm⟩ | ⟨set, -, rfl⟩
  · rcases cases_of_mem_accessors hm with hreader | hsetter
    · exact .inl ⟨f, hreader⟩
    · exact .inr (.inl ⟨f, hsetter⟩)
  · exact .inr (.inr ⟨set, rfl⟩)

theorem cases_of_mem_identityMethods {s : Scaffold} {m : Method} (h : m ∈ s.identityMethods) :
    (∃ body, m = equalsMethod body) ∨ (∃ body, m = hashMethod body) ∨
      ∃ text, m = textMethod "toString" text := by
  unfold identityMethods at h
  split at h
  · simp only [simpleIdentity, List.mem_cons, List.not_mem_nil, or_false] at h
    rcases h with hequals | hhash | htext
    · exact .inl ⟨_, hequals⟩
    · exact .inr (.inl ⟨_, hhash⟩)
    · exact .inr (.inr ⟨_, htext⟩)
  · simp only [compositeIdentity, List.mem_cons, List.not_mem_nil, or_false] at h
    rcases h with hequals | hhash | htext
    · exact .inl ⟨_, hequals⟩
    · exact .inr (.inl ⟨_, hhash⟩)
    · exact .inr (.inr ⟨_, htext⟩)
  · exact absurd h List.not_mem_nil

/-! ## All of them -/

/-- The fields of the base class, in order: the version of the stored form, those of the entity, and
the constants. -/
def baseFields (s : Scaffold) : List Field :=
  storedVersion :: (fields s.entity).map (·.declaration) ++ nameConstants s.entity

/-- The methods and constructors of the base class, in order. -/
def baseMethods (s : Scaffold) : List Method :=
  s.emptyConstructor :: s.key?.toList.map s.keyConstructor ++ initializer ::
    s.accessorGroups.flatten ++ s.identityMethods ++ [s.debugMethod]

/-- The groups of a base class come to its fields, and then its methods. -/
theorem members_baseClass (s : Scaffold) :
    s.baseClass.members = s.baseFields.map .field ++ s.baseMethods.map .method := by
  have hkey : (s.key?.toList.map fun key => [Member.method (s.keyConstructor key)]).flatten =
      s.key?.toList.map fun key => .method (s.keyConstructor key) := by
    cases s.key? <;> rfl
  have hothers : ((s.identityMethods ++ [s.debugMethod]).map fun m => [Member.method m]).flatten =
      (s.identityMethods ++ [s.debugMethod]).map .method := by
    rw [← List.flatMap_def, ← List.map_eq_flatMap]
  unfold ClassDeclaration.members baseClass baseFields baseMethods fields
  simp only [List.flatten_append, List.flatten_cons, List.flatten_nil, hkey, hothers,
    ← List.map_flatten]
  simp [Function.comp_def]

theorem methods_baseClass (s : Scaffold) :
    s.baseClass.methods =
      s.emptyConstructor :: s.key?.toList.map s.keyConstructor ++ initializer ::
        s.accessorGroups.flatten ++ s.identityMethods ++ [s.debugMethod] := by
  unfold ClassDeclaration.methods
  rw [members_baseClass, List.filterMap_append, filterMap_method?_field, filterMap_method?_method]
  rfl

theorem field_mem_baseClass {s : Scaffold} {f : AccessedField} (hf : f ∈ fields s.entity) :
    .field f.declaration ∈ s.baseClass.members := by
  rw [members_baseClass]
  refine List.mem_append_left _ (List.mem_map_of_mem ?_)
  exact List.mem_append_left _ (List.mem_cons_of_mem _ (List.mem_map_of_mem hf))

end Scaffold

end EntityScaffold
