import EntityScaffold.Text.Case

/-!
# Names that keep their case

Names are stored with the first character in upper case and written with it in lower case again. The
two mappings are not inverse to each other: a first character may be in upper case already (`URL`),
it may be mapped to several characters (`ß`), or two lower-case characters may share one upper-case
character (`s` and `ſ`). The name comes back exactly if its first character is mapped to a single
character that is mapped back to it (`KeepsCase`, `decapitalize_capitalize_eq_iff`); among the ASCII
characters these are all but the upper-case letters (`keepsCase_iff_of_ascii`).
-/

namespace EntityScaffold.Text

/-- The first character, if there is one, comes back from its upper case. -/
def KeepsCase (name : String) : Prop :=
  ∀ c ∈ name.toList.head?, ∃ capital, upper c = [capital] ∧ lower capital = [c]

variable {expansions : List (Nat × List Nat)} {runs : List CaseRun} {c : Char}

/-- A mapping that does not expand characters to nothing does not lose any. -/
theorem mapCase_ne_nil (h : ∀ entry ∈ expansions, entry.2 ≠ []) :
    mapCase expansions runs c ≠ [] := by
  unfold mapCase
  split
  · next codes hcodes =>
    obtain ⟨_, _, hsplit, -⟩ := List.lookup_eq_some_iff.mp hcodes
    have hentry : (c.toNat, codes) ∈ expansions := by rw [hsplit]; simp
    simpa using h _ hentry
  · split <;> exact List.cons_ne_nil _ _

theorem upper_ne_nil (c : Char) : upper c ≠ [] :=
  mapCase_ne_nil (by decide)

theorem lower_ne_nil (c : Char) : lower c ≠ [] :=
  mapCase_ne_nil (by decide)

/-- The lower case of the whole upper case decides it. -/
theorem flatMap_lower_upper_eq_iff :
    (upper c).flatMap lower = [c] ↔ ∃ capital, upper c = [capital] ∧ lower capital = [c] := by
  obtain ⟨capital, more, hupper⟩ := List.exists_cons_of_ne_nil (upper_ne_nil c)
  rw [hupper, List.flatMap_cons, List.append_eq_singleton_iff]
  constructor
  · rintro (⟨hnil, -⟩ | ⟨hlower, hmore⟩)
    · exact absurd hnil (lower_ne_nil capital)
    · have hnone : more = [] := List.eq_nil_iff_forall_not_mem.mpr fun other hother =>
        lower_ne_nil other (List.flatMap_eq_nil_iff.mp hmore other hother)
      exact ⟨capital, by rw [hnone], hlower⟩
  · rintro ⟨other, hcapital, hlower⟩
    obtain ⟨rfl, rfl⟩ := List.cons.inj hcapital
    exact .inr ⟨hlower, rfl⟩

instance : DecidablePred KeepsCase := fun name =>
  decidable_of_iff (name.toList.head?.all fun c => (upper c).flatMap lower == [c]) (by
    simp only [KeepsCase, Option.all_eq_true, beq_iff_eq, flatMap_lower_upper_eq_iff]
    rfl)

theorem keepsCase_cons_iff {c : Char} {cs : List Char} :
    KeepsCase (String.ofList (c :: cs)) ↔ ∃ capital, upper c = [capital] ∧ lower capital = [c] := by
  simp [KeepsCase]

/-- What has become of a name whose first character is `c`. -/
theorem exists_toList_decapitalize_capitalize (c : Char) (cs : List Char) :
    ∃ capital more, upper c = capital :: more ∧
      (decapitalize (capitalize (String.ofList (c :: cs)))).toList =
        lower capital ++ more ++ cs := by
  obtain ⟨capital, more, hupper⟩ := List.exists_cons_of_ne_nil (upper_ne_nil c)
  refine ⟨capital, more, hupper, ?_⟩
  rw [toList_decapitalize, toList_capitalize]
  simp [hupper]

/-- The first character may turn into several ones, but is never lost. -/
theorem length_le_decapitalize_capitalize (name : String) :
    name.toList.length ≤ (decapitalize (capitalize name)).toList.length := by
  cases hname : name.toList with
  | nil => exact Nat.zero_le _
  | cons c cs =>
    obtain ⟨capital, more, -, hlist⟩ := exists_toList_decapitalize_capitalize c cs
    have hlower : 0 < (lower capital).length := List.length_pos_iff.mpr (lower_ne_nil capital)
    rw [← hname, String.ofList_toList] at hlist
    rw [hlist, List.length_append, List.length_append, List.length_cons]
    omega

/-- A name comes back from its form with a capital exactly if it keeps its case. -/
theorem decapitalize_capitalize_eq_iff {name : String} :
    decapitalize (capitalize name) = name ↔ KeepsCase name := by
  obtain ⟨cs, rfl⟩ : ∃ cs, name = String.ofList cs := ⟨name.toList, String.ofList_toList.symm⟩
  cases cs with
  | nil => simp [KeepsCase]
  | cons c cs =>
    obtain ⟨capital, more, hupper, hlist⟩ := exists_toList_decapitalize_capitalize c cs
    have hlower := lower_ne_nil capital
    have hsame : lower capital ++ more ++ cs = c :: cs ↔ lower capital ++ more = [c] := by
      rw [← List.singleton_append, List.append_left_inj]
    rw [← String.toList_inj, hlist, String.toList_ofList, hsame, keepsCase_cons_iff, hupper]
    constructor
    · intro h
      rcases List.append_eq_singleton_iff.mp h with ⟨hnil, -⟩ | ⟨hlower, rfl⟩
      · exact absurd hnil hlower
      · exact ⟨capital, rfl, hlower⟩
    · rintro ⟨other, hcapital, hback⟩
      obtain ⟨rfl, rfl⟩ := List.cons.inj hcapital
      rw [hback]
      rfl

/-- Two names with a dot between them come back exactly if both keep their case: neither can make up
for what the other one has lost. -/
theorem decapitalize_capitalize_path_eq_iff {name inner : String} :
    decapitalize (capitalize name) ++ "." ++ decapitalize (capitalize inner) =
        name ++ "." ++ inner ↔ KeepsCase name ∧ KeepsCase inner := by
  rw [← decapitalize_capitalize_eq_iff, ← decapitalize_capitalize_eq_iff]
  constructor
  · intro h
    have hname := length_le_decapitalize_capitalize name
    have hinner := length_le_decapitalize_capitalize inner
    have hlist := congrArg String.toList h
    simp only [String.toList_append, List.append_assoc] at hlist
    have hlength := congrArg List.length hlist
    simp only [List.length_append] at hlength
    obtain ⟨hfirst, hrest⟩ := List.append_inj hlist (by omega)
    exact ⟨String.toList_inj.mp hfirst, String.toList_inj.mp (List.append_cancel_left hrest)⟩
  · rintro ⟨hname, hinner⟩
    rw [hname, hinner]

/-! ## ASCII -/

/-- A character before all entries of the tables but the first run is decided by this run. -/
theorem mapCase_eq_of_lt {bound : Nat} {run : CaseRun}
    (hexpansions : ∀ entry ∈ expansions, bound ≤ entry.1) (hruns : ∀ r ∈ runs, bound ≤ r.first)
    (hc : c.toNat < bound) : mapCase expansions (run :: runs) c = mapCase [] [run] c := by
  have hlookup : expansions.lookup c.toNat = none := by
    refine List.lookup_eq_none_iff.mpr fun entry hentry => ?_
    have := hexpansions entry hentry
    rw [bne_iff_ne]
    omega
  have hfind : runs.find? (·.covers c.toNat) = none := by
    refine List.find?_eq_none.mpr fun r hr => ?_
    have := hruns r hr
    simp only [CaseRun.covers, Bool.and_eq_true, decide_eq_true_eq]
    omega
  unfold mapCase
  rw [hlookup, List.lookup_nil, List.find?_cons, List.find?_cons, hfind, List.find?_nil]

/-- Among the ASCII characters only the upper-case letters do not come back. -/
theorem keepsCase_iff_of_ascii {c : Char} (hc : c.toNat < 128) (cs : List Char) :
    KeepsCase (String.ofList (c :: cs)) ↔ ¬ c.isUpper := by
  have hupperRuns : ∀ r ∈ upperRuns.tail, 128 ≤ r.first := by decide +kernel
  have hlowerRuns : ∀ r ∈ lowerRuns.tail, 128 ≤ r.first := by decide +kernel
  have hupper {c : Char} (hc : c.toNat < 128) : upper c = mapCase [] [⟨97, 122, 1, 65⟩] c :=
    mapCase_eq_of_lt (by decide) hupperRuns hc
  have hlower {c : Char} (hc : c.toNat < 128) : lower c = mapCase [] [⟨65, 90, 1, 97⟩] c :=
    mapCase_eq_of_lt (by decide) hlowerRuns hc
  have hletters : ∀ code ∈ List.range 128,
      (mapCase [] [⟨97, 122, 1, 65⟩] (Char.ofNat code)).all (·.toNat < 128) ∧
        ((mapCase [] [⟨97, 122, 1, 65⟩] (Char.ofNat code)).flatMap
          (mapCase [] [⟨65, 90, 1, 97⟩]) = [Char.ofNat code] ↔ ¬ (Char.ofNat code).isUpper) := by
    decide +kernel
  obtain ⟨hascii, hback⟩ := hletters c.toNat (List.mem_range.mpr hc)
  rw [Char.ofNat_toNat, ← hupper hc] at hascii hback
  have hlowers : ∀ capital ∈ upper c, lower capital = mapCase [] [⟨65, 90, 1, 97⟩] capital :=
    fun capital hcapital => hlower (by simpa using List.all_eq_true.mp hascii capital hcapital)
  have hmap : (upper c).flatMap lower = (upper c).flatMap (mapCase [] [⟨65, 90, 1, 97⟩]) := by
    rw [List.flatMap_def, List.flatMap_def, List.map_congr_left hlowers]
  rw [keepsCase_cons_iff, ← flatMap_lower_upper_eq_iff, hmap, hback]

example : KeepsCase "_id" ∧ ¬ KeepsCase "URL" ∧ ¬ KeepsCase "ßeta" ∧ ¬ KeepsCase "ſet" := by
  decide +kernel

end EntityScaffold.Text
