import EntityScaffold.Proofs.AccountedMembers
import EntityScaffold.Proofs.CaseRoundTrip
import EntityScaffold.Proofs.ImportClosure

/-!
# Names declared in methods

A method declares its parameters and its local variables (`Method.scope`). Their names stand for
accessor names, types and classes, where only some characters are kept, and some of them are the
same in every class: the object that an object is compared with is `o`, and a finder gets its
session as `hibSession`.

None of these names is reserved: whatever is reserved gets an ending that no reserved word has. The
ending of a key keeps a finder apart from its session. Nothing keeps the other object apart in the
comparison of composite keys, where it is declared once more, under a name that stands for the class
(`method_scopes_of_entity`). For a class of which an `o` is left, that is the name it has already.
-/

namespace EntityScaffold

open Java (Expr Method Statement TypeUse isIdentifierPart parameterName reservedWords)
open Mapping (CompositeKey Entity KeyComponent ManyToOne Placed Resource SetMember bareEntity
  plainAttribute)
open Text (NameSet Occurs decapitalize lower)
open Xml (Element)

namespace Text

/-! ## The letter o -/

/-- Where a mapping gives a single character, it is from one of its tables or keeps it. -/
theorem cases_of_mapCase_eq_singleton {expansions : List (Nat × List Nat)} {runs : List CaseRun}
    {c d : Char} (h : mapCase expansions runs c = [d]) :
    (∃ entry ∈ expansions, entry.2.map Char.ofNat = [d]) ∨
      (∃ r ∈ runs, r.covers c.toNat ∧ Char.ofNat (r.apply c.toNat) = d) ∨ c = d := by
  unfold mapCase at h
  split at h
  · next codes hcodes =>
    obtain ⟨_, _, hsplit, -⟩ := List.lookup_eq_some_iff.mp hcodes
    exact .inl ⟨(c.toNat, codes), by rw [hsplit]; simp, h⟩
  · split at h
    · next r hr =>
      have hcovers : r.covers c.toNat = true :=
        List.find?_some (p := fun r : CaseRun => r.covers c.toNat) hr
      exact .inr (.inl ⟨r, List.mem_of_find?_eq_some hr, hcovers, List.singleton_inj.mp h⟩)
    · exact .inr (.inr (List.singleton_inj.mp h))

/-- No letter but the capital one is mapped to an `o`. -/
theorem lower_eq_o_iff {c : Char} : lower c = ['o'] ↔ c = 'o' ∨ c = 'O' := by
  constructor
  · intro h
    rcases cases_of_mapCase_eq_singleton h with ⟨entry, hentry, hcodes⟩ | ⟨r, hr, hcovers, happly⟩ |
      rfl
    · have hnone : ∀ entry ∈ lowerExpansions, entry.2.map Char.ofNat ≠ ['o'] := by decide
      exact absurd hcodes (hnone entry hentry)
    · have hcode : r.apply c.toNat = 'o'.toNat := by
        by_cases hvalid : (r.apply c.toNat).isValidChar
        · rw [← happly, Char.ofNat, dif_pos hvalid]
          rfl
        · rw [Char.ofNat, dif_neg hvalid] at happly
          exact absurd happly (by decide)
      -- a run that reaches the letter does so from the capital one
      have hruns : ∀ r ∈ lowerRuns, r.image ≤ 'o'.toNat → 'o'.toNat ≤ r.image + (r.last - r.first) →
          r.first + ('o'.toNat - r.image) = 'O'.toNat := by decide +kernel
      have hfrom := hruns r hr
      simp only [CaseRun.covers, Bool.and_eq_true, decide_eq_true_eq] at hcovers
      obtain ⟨⟨hfirst, hlast⟩, -⟩ := hcovers
      unfold CaseRun.apply at hcode
      right
      rw [← Char.toNat_inj]
      have hO := hfrom (by omega) (by omega)
      omega
    · exact .inl rfl
  · rintro (rfl | rfl) <;> decide +kernel

end Text

namespace Java

/-! ## Names of parameters -/

/-- What a name leaves in an identifier. -/
def keptPart (name : String) : List Char :=
  name.toList.filter isIdentifierPart

theorem parameterName_eq_ite (name : String) :
    parameterName name =
      if decapitalize (String.ofList (keptPart name)) ∈ reservedWords then
        decapitalize (String.ofList (keptPart name)) ++ "Value"
      else decapitalize (String.ofList (keptPart name)) :=
  rfl

/-- A name with an ending is none of some words without this ending. -/
theorem append_not_mem {words : List String} {ending : String}
    (h : ∀ word ∈ words, ¬ ending.toList <:+ word.toList) (start : String) :
    start ++ ending ∉ words := fun hmem =>
  h _ hmem (by rw [String.toList_append]; exact List.suffix_append _ _)

theorem parameterName_not_mem_reservedWords (name : String) :
    parameterName name ∉ reservedWords := by
  rw [parameterName_eq_ite]
  split
  · exact append_not_mem (by decide) _
  · assumption

theorem parameterName_eq_o_iff {name : String} :
    parameterName name = "o" ↔ keptPart name = ['o'] ∨ keptPart name = ['O'] := by
  have hbare : parameterName name = "o" ↔ decapitalize (String.ofList (keptPart name)) = "o" := by
    rw [parameterName_eq_ite]
    split
    · next hreserved =>
      have hvalue : decapitalize (String.ofList (keptPart name)) ++ "Value" ∉ ["o"] :=
        append_not_mem (by decide) _
      have hword : decapitalize (String.ofList (keptPart name)) ≠ "o" := fun h => by
        rw [h] at hreserved
        exact absurd hreserved (by decide)
      exact iff_of_false (fun h => hvalue (List.mem_singleton.mpr h)) hword
    · exact Iff.rfl
  rw [hbare, ← String.toList_inj, Text.toList_decapitalize, String.toList_ofList]
  cases keptPart name with
  | nil => decide
  | cons c cs =>
    have hlist : lower c ++ cs = ['o'] ↔ lower c = ['o'] ∧ cs = [] := by
      rw [List.append_eq_singleton_iff]
      exact ⟨fun h => h.resolve_left fun hnil => Text.lower_ne_nil c hnil.1, .inr⟩
    have hstart : ((c :: cs).head?.map lower).getD [] ++ (c :: cs).tail = lower c ++ cs := rfl
    have ho : "o".toList = ['o'] := rfl
    rw [hstart, ho, hlist, Text.lower_eq_o_iff]
    grind

/-! ## Scopes -/

/-- The local variables that a statement declares. -/
def Statement.declared : Statement → List String
  | .declare _ name _ => [name]
  | .onlyIf _ body => body.declared
  | .run _ | .assign _ _ | .giveBack _ => []

/-- The names that a method declares: its parameters and its local variables. -/
def Method.scope (m : Method) : List String :=
  m.parameters.map (·.name) ++ m.body.flatMap Statement.declared

end Java

namespace Scaffold

/-! ## Methods of a scaffold -/

variable {s : Scaffold} {m : Method}

/-- What a method of the generated base classes declares. -/
inductive Declares (s : Scaffold) (m : Method) : Prop
  | nothing (h : m.scope = [])
  | named (name : String) (h : m.scope = [parameterName name])
  | compared (h : m.scope = ["o"])
  | comparedTwice (hname : m.name = "equals") (h : m.scope = ["o", parameterName s.className])
      (hkey : s.key? = none) (hcomposite : s.entity.compositeKey?.isSome)
  | sought (association : ManyToOne) (h : m.scope = ["hibSession", finderParameter association])

theorem scope_keyConstructor (s : Scaffold) (key : KeyRef) :
    (s.keyConstructor key).scope = [parameterName key.name] :=
  rfl

theorem scope_reader (f : AccessedField) (name : String) : (f.reader name).scope = [] :=
  rfl

theorem scope_setter (f : AccessedField) : f.setter.scope = [parameterName f.name] :=
  rfl

theorem scope_adder (set : SetMember) :
    (adder set).scope = [parameterName set.element.simple] := by
  simp only [adder, Method.scope, List.map_cons, List.map_nil, List.flatMap_cons, List.flatMap_nil,
    Statement.declared, List.append_nil]

theorem scope_finder (s : Scaffold) (association : ManyToOne) :
    (s.finder association).scope = ["hibSession", finderParameter association] :=
  rfl

/-- The method that compares two objects by a composite key. -/
def comparison (s : Scaffold) (components : List KeyComponent) : Method :=
  (s.compositeIdentity components).head (List.cons_ne_nil _ _)

theorem comparison_mem (s : Scaffold) (components : List KeyComponent) :
    s.comparison components ∈ s.compositeIdentity components :=
  List.head_mem _

/-- The comparison is the one method with a local variable. -/
theorem scope_comparison (s : Scaffold) (components : List KeyComponent) :
    (s.comparison components).scope = ["o", parameterName s.className] := by
  have hdiffers : ((components.map (·.name)).map
      (differsIn (.name (parameterName s.className)))).flatMap Statement.declared = [] := by
    rw [List.flatMap_map]
    exact List.flatMap_eq_nil_iff.mpr fun _ _ => rfl
  unfold comparison compositeIdentity Method.scope
  simp only [List.head_cons, equalsMethod, List.flatMap_append, hdiffers]
  rfl

theorem declares_of_mem_identityMethods (h : m ∈ s.identityMethods) : s.Declares m := by
  unfold identityMethods at h
  split at h
  · simp only [simpleIdentity, List.mem_cons, List.not_mem_nil, or_false] at h
    rcases h with rfl | rfl | rfl
    · exact .compared rfl
    · exact .nothing rfl
    · exact .nothing rfl
  · next hkey hcomposite =>
    simp only [compositeIdentity, List.mem_cons, List.not_mem_nil, or_false] at h
    rcases h with rfl | rfl | rfl
    · refine .comparedTwice rfl ?_ hkey (by rw [hcomposite]; rfl)
      exact s.scope_comparison _
    · exact .nothing rfl
    · exact .nothing rfl
  · exact absurd h List.not_mem_nil

theorem declares_of_mem_baseClass (h : m ∈ s.baseClass.methods) : s.Declares m := by
  rw [methods_baseClass] at h
  simp only [List.mem_append, List.mem_cons, List.mem_map, List.not_mem_nil, or_false] at h
  rcases h with (((rfl | ⟨key, -, rfl⟩) | rfl | haccessor) | hidentity) | rfl
  · exact .nothing rfl
  · exact .named key.name (scope_keyConstructor s key)
  · exact .nothing rfl
  · rcases cases_of_mem_accessorGroups haccessor with ⟨f, _, -, rfl⟩ | ⟨f, rfl⟩ | ⟨set, rfl⟩
    · exact .nothing (scope_reader f _)
    · exact .named f.name (scope_setter f)
    · exact .named set.element.simple (scope_adder set)
  · exact declares_of_mem_identityMethods hidentity
  · exact .nothing rfl

theorem declares_of_mem_accessBaseClass (h : m ∈ s.accessBaseClass.methods) : s.Declares m := by
  have hmethods : s.accessBaseClass.methods =
      s.instanceMethod :: s.referenceMethod :: s.finders := by
    rw [Java.ClassDeclaration.methods, members_accessBaseClass,
      List.filterMap_cons_none rfl, Java.filterMap_method?_method]
  rw [hmethods, finders] at h
  simp only [List.mem_cons, List.mem_map] at h
  rcases h with rfl | rfl | ⟨association, -, rfl⟩
  · exact .nothing rfl
  · exact .nothing rfl
  · exact .sought association (scope_finder s association)

/-- No name that a method declares is reserved. -/
theorem Declares.not_reserved (h : s.Declares m) : ∀ name ∈ m.scope, name ∉ reservedWords := by
  have ho : "o" ∉ reservedWords := by decide
  rcases h with h | ⟨name, h⟩ | h | ⟨-, h, -, -⟩ | ⟨association, h⟩
  · simp [h]
  · simpa [h] using Java.parameterName_not_mem_reservedWords name
  · simpa [h] using ho
  · simpa [h] using ⟨ho, Java.parameterName_not_mem_reservedWords s.className⟩
  · have hsession : "hibSession" ∉ reservedWords := by decide
    have hkey : finderParameter association ∉ reservedWords := Java.append_not_mem (by decide) _
    simpa [h] using ⟨hsession, hkey⟩

theorem finderParameter_ne_session (association : ManyToOne) :
    finderParameter association ≠ "hibSession" := fun h => by
  have hkey : finderParameter association ∉ ["hibSession"] := Java.append_not_mem (by decide) _
  exact hkey (by rw [h]; exact List.mem_singleton_self _)

/-- The names that a method declares are distinct, unless they are the same two in a comparison. -/
theorem Declares.nodup_or (h : s.Declares m) : m.scope.Nodup ∨
    m.name = "equals" ∧ m.scope = ["o", "o"] ∧ s.key? = none ∧ s.entity.compositeKey?.isSome ∧
      parameterName s.className = "o" := by
  rcases h with h | ⟨name, h⟩ | h | ⟨hname, h, hkey, hcomposite⟩ | ⟨association, h⟩
  · exact .inl (by simp [h])
  · exact .inl (by simp [h])
  · exact .inl (by simp [h])
  · by_cases ho : parameterName s.className = "o"
    · rw [ho] at h
      exact .inr ⟨hname, h, hkey, hcomposite, ho⟩
    · exact .inl (by simpa [h] using Ne.symm ho)
  · exact .inl (by simpa [h] using (finderParameter_ne_session association).symm)

theorem comparison_mem_baseClass {key : CompositeKey} (hkey : s.key? = none)
    (hcomposite : s.entity.compositeKey? = some key) :
    s.comparison key.components ∈ s.baseClass.methods := by
  have hidentity : s.identityMethods = s.compositeIdentity key.components := by
    rw [identityMethods, hkey, hcomposite]
  rw [methods_baseClass, hidentity]
  exact List.mem_append_left _ (List.mem_append_right _ (s.comparison_mem key.components))

end Scaffold

/-! ## Methods of an entity -/

namespace Mapping

/-- The entity has a composite key, no simple key is known for it, and nothing is left of its class
name in an identifier but an `o`. -/
structure Placed.RepeatsObject (p : Placed) : Prop where
  no_simple_key : p.key? = none
  composite_key : p.entity.compositeKey?.isSome
  kept : Java.keptPart p.entity.className = ['o'] ∨ Java.keptPart p.entity.className = ['O']

end Mapping

namespace Scaffold

/-- What the methods of the two base classes declare has no reserved name. In each method the names
are distinct, but for a comparison where both of them are `o`. There is such a comparison exactly if
the entity repeats the object. -/
theorem method_scopes_of_entity (h : Hierarchy) (shown : NameSet) (p : Placed) :
    let methods := (ofPlaced h shown p).baseClass.methods ++
      (ofPlaced h shown p).accessBaseClass.methods
    (∀ m ∈ methods, ∀ name ∈ m.scope, name ∉ reservedWords) ∧
      (∀ m ∈ methods, m.scope.Nodup ∨ m.name = "equals" ∧ m.scope = ["o", "o"]) ∧
      ((∀ m ∈ methods, m.scope.Nodup) ↔ ¬ p.RepeatsObject) := by
  intro methods
  have hdeclares : ∀ m ∈ methods, (ofPlaced h shown p).Declares m := fun m hm =>
    (List.mem_append.mp hm).elim declares_of_mem_baseClass declares_of_mem_accessBaseClass
  have hkey : (ofPlaced h shown p).key? = none ↔ p.key? = none := Option.map_eq_none_iff
  refine ⟨fun m hm => (hdeclares m hm).not_reserved, fun m hm => ?_, fun hnodup hrepeats => ?_,
    fun hrepeats m hm => ?_⟩
  · exact (hdeclares m hm).nodup_or.imp_right fun ⟨hname, hscope, _⟩ => ⟨hname, hscope⟩
  · obtain ⟨key, hcomposite⟩ := Option.isSome_iff_exists.mp hrepeats.composite_key
    have hmem := comparison_mem_baseClass (hkey.mpr hrepeats.no_simple_key) hcomposite
    have ho : parameterName (ofPlaced h shown p).className = "o" :=
      Java.parameterName_eq_o_iff.mpr hrepeats.kept
    have hdistinct := hnodup _ (List.mem_append_left _ hmem)
    rw [scope_comparison, ho] at hdistinct
    exact absurd hdistinct (by decide)
  · refine (hdeclares m hm).nodup_or.resolve_right ?_
    rintro ⟨-, -, hnone, hcomposite, ho⟩
    exact hrepeats ⟨hkey.mp hnone, hcomposite, Java.parameterName_eq_o_iff.mp ho⟩

/-! ### A class with a short name -/

/-- A class `O` with a composite key. -/
def oxygenClass : Element :=
  .mk "class" [plainAttribute "name" "O"] [
    .mk "composite-id" [] [
      .mk "key-property" [plainAttribute "name" "mass", plainAttribute "type" "Integer"] []]]

/-- The key of the class. -/
def oxygenKey : CompositeKey where
  components := [⟨"Mass", ⟨"Integer"⟩, .property⟩]
  components_ne_nil := List.cons_ne_nil _ _

/-- The entity as which the class is read. -/
def oxygenEntity : Entity :=
  { bareEntity .root "O" [] with key? := some (.composite oxygenKey) }

/-- The comparison has a parameter and a local variable of one name. -/
theorem comparison_repeats_object_oxygen :
    (Resource.read "O.hbm.xml" (.mk "hibernate-mapping" [] [oxygenClass])).outcome =
        .ok ⟨"O.hbm.xml", none, [oxygenEntity]⟩ ∧
      ∃ h, Hierarchy.ofResources [⟨"O.hbm.xml", none, [oxygenEntity]⟩] = .ok h ∧
        let s := ofPlaced h .empty ⟨oxygenEntity, []⟩
        ∃ m ∈ s.baseClass.methods, m.scope = ["o", "o"] ∧ ¬ m.scope.Nodup ∧
          m.render = "\tpublic boolean equals(Object o) \x7b\n" ++
            "\t\tif (o == null || !(o instanceof O)) return false;\n" ++
            "\t\tO o = (O)o;\n" ++
            "\t\tif (getMass() == null || o.getMass() == null || " ++
            "!getMass().equals(o.getMass())) return false;\n" ++
            "\t\treturn true;\n" ++
            "\t\x7d\n" ∧
          Occurs m.render (s.artifact none .base).contents := by
  have hresources : Hierarchy.ofResources [⟨"O.hbm.xml", none, [oxygenEntity]⟩] =
      .ok ⟨[⟨"O", none, none⟩], by decide⟩ := rfl
  refine ⟨rfl, _, hresources, ?_⟩
  intro s
  have hmem : s.comparison oxygenKey.components ∈ s.baseClass.methods :=
    comparison_mem_baseClass rfl rfl
  have hname : parameterName s.className = "o" := by decide +kernel
  have hscope : (s.comparison oxygenKey.components).scope = ["o", "o"] := by
    rw [scope_comparison, hname]
  refine ⟨_, hmem, hscope, by rw [hscope]; decide, by decide +kernel, ?_⟩
  have hmember := Java.occurs_member (Java.ClassDeclaration.mem_methods_iff.mp hmem)
  exact hmember.trans (s.occurs_artifact none .base)

end Scaffold

end EntityScaffold
