import Mathlib.Data.List.Infix
import EntityScaffold.Java.TypeName

/-!
# Two spellings of a type

A mapping document may name a class of its own package by the bare name, any other document names it
by package and name. Both spellings have to come to one canonical name, as entities, imports and
targets of finders are found by it. They do so unless the qualified spelling falls under a rule that
bare names cannot meet: types of `java.lang` lose their package, and a few library types are
replaced (`spellings_agree_iff`). A qualified token outside `java.lang` means the same in every
package, and so does its canonical name, which is canonical itself.
-/

namespace EntityScaffold

/-! ## Dots and letters -/

namespace Text

/-- Every character of a mapping is the character itself, or one from the tables, or the null
character where an entry of the tables is no character at all. -/
theorem mem_mapCase {expansions : List (Nat × List Nat)} {runs : List CaseRun} {bound : Nat}
    (hexpansions : ∀ entry ∈ expansions, ∀ code ∈ entry.2, bound < code)
    (hruns : ∀ r ∈ runs, bound < r.image) {c d : Char} (h : d ∈ mapCase expansions runs c) :
    d = c ∨ d = Char.ofNat 0 ∨ bound < d.toNat := by
  have hcode {code : Nat} (hcode : bound < code) :
      Char.ofNat code = Char.ofNat 0 ∨ bound < (Char.ofNat code).toNat := by
    by_cases hvalid : code.isValidChar
    · right
      have hsame : (Char.ofNat code).toNat = code := by
        unfold Char.ofNat
        rw [dif_pos hvalid]
        rfl
      rw [hsame]
      exact hcode
    · left
      unfold Char.ofNat
      rw [dif_neg hvalid]
      rfl
  unfold mapCase at h
  split at h
  · next codes hcodes =>
    obtain ⟨code, hmem, rfl⟩ := List.mem_map.mp h
    obtain ⟨_, _, hsplit, -⟩ := List.lookup_eq_some_iff.mp hcodes
    have hentry : (c.toNat, codes) ∈ expansions := by rw [hsplit]; simp
    exact .inr (hcode (hexpansions _ hentry code hmem))
  · split at h
    · next r hr =>
      rw [List.mem_singleton.mp h]
      have himage := hruns r (List.mem_of_find?_eq_some hr)
      exact .inr (hcode (Nat.lt_of_lt_of_le himage (Nat.le_add_right _ _)))
    · exact .inl (List.mem_singleton.mp h)

/-- No letter has a dot in its upper case. -/
theorem dot_mem_upper_iff {c : Char} : '.' ∈ upper c ↔ c = '.' := by
  constructor
  · intro h
    have hexpansions : ∀ entry ∈ upperExpansions, ∀ code ∈ entry.2, 46 < code := by
      decide +kernel
    have hruns : ∀ r ∈ upperRuns, 46 < r.image := by decide +kernel
    rcases mem_mapCase hexpansions hruns h with hsame | hnull | hlarge
    · exact hsame.symm
    · exact absurd hnull (by decide)
    · exact absurd hlarge (by decide)
  · rintro rfl
    decide +kernel

theorem dot_mem_capitalize_iff {s : String} : '.' ∈ (capitalize s).toList ↔ '.' ∈ s.toList := by
  rw [toList_capitalize]
  cases s.toList with
  | nil => rfl
  | cons c cs => simp [dot_mem_upper_iff, eq_comm]

/-- No letter has a dot for its lower case. -/
theorem eq_dot_of_toLower {c : Char} (h : c.toLower = '.') : c = '.' := by
  unfold Char.toLower at h
  split at h
  · next hupper =>
    have hle : 65 ≤ c.toNat := hupper.1
    have hge : c.toNat ≤ 90 := hupper.2
    have hval : (c.toNat + 32) % 4294967296 = 46 := congrArg Char.toNat h
    omega
  · exact h

/-- The texts have the same letters, in whatever case. -/
def SameLetters (s t : String) : Prop :=
  s.toList.map Char.toLower = t.toList.map Char.toLower

instance (s t : String) : Decidable (SameLetters s t) :=
  inferInstanceAs (Decidable (_ = _))

/-- Texts that end without a further separator are divided in one way only. -/
theorem suffix_of_last_separator {sep : Char} {before after ending : List Char}
    (hafter : sep ∉ after) (hending : sep ∉ ending) :
    sep :: ending <:+ before ++ sep :: after ↔ ending = after := by
  constructor
  · rintro ⟨front, hfront⟩
    have hfound := cutLast_eq_some_iff.mpr ⟨hfront.symm, hending⟩
    have hwhole := cutLast_eq_some_iff.mpr ⟨(rfl : before ++ sep :: after = _), hafter⟩
    exact (Prod.mk.inj (Option.some.inj (hfound.symm.trans hwhole))).2
  · rintro rfl
    exact List.suffix_append before _

end Text

namespace Java.TypeName

open Text

variable {token name package : String}

/-! ## The rules for qualified names -/

/-- A package is `java.lang` or lies inside it. -/
def InJavaLang (package : String) : Prop :=
  package = "java.lang" ∨ "java.lang.".toList <+: package.toList

instance (package : String) : Decidable (InJavaLang package) :=
  inferInstanceAs (Decidable (_ ∨ _))

/-- What a qualified name outside `java.lang` stands for: a few library types are replaced. -/
def replaced (name : String) : TypeName :=
  if isDatabaseDate name then date else if isDocumentMarker name then document else ⟨name⟩

theorem isDatabaseDate_iff :
    isDatabaseDate name = true ↔
      name = "java.sql.Date" ∨ SameLetters name "java.sql.Timestamp" := by
  have hletters : "java.sql.timestamp".toList = "java.sql.Timestamp".toList.map Char.toLower := by
    decide
  unfold isDatabaseDate SameLetters
  rw [Bool.or_eq_true, beq_iff_eq, beq_iff_eq, hletters]

theorem isDocumentMarker_iff {package name : String} (hname : '.' ∉ name.toList) :
    isDocumentMarker (package ++ "." ++ name) = true ↔
      name = "XmlBlobType" ∨ name = "XmlClobType" := by
  have hending (ending : String) (hending : '.' ∉ ending.toList) :
      (".".toList ++ ending.toList).isSuffixOf (package ++ "." ++ name).toList = true ↔
        name = ending := by
    have htext : (package ++ "." ++ name).toList = package.toList ++ '.' :: name.toList := by simp
    rw [List.isSuffixOf_iff_suffix, htext, ← String.toList_inj, eq_comm (a := name.toList)]
    exact suffix_of_last_separator hname hending
  have hblob := hending "XmlBlobType" (by decide)
  have hclob := hending "XmlClobType" (by decide)
  simp only [isDocumentMarker, documentEndings, List.any_cons, List.any_nil, Bool.or_false,
    Bool.or_eq_true]
  exact or_congr hblob hclob

/-- Only qualified names are replaced. -/
theorem replaced_of_bare (h : '.' ∉ name.toList) : replaced name = ⟨name⟩ := by
  have hdate : isDatabaseDate name = false := by
    refine Bool.eq_false_iff.mpr fun hdate => h ?_
    rcases isDatabaseDate_iff.mp hdate with rfl | hletters
    · decide
    · have hdot : '.' ∈ name.toList.map Char.toLower := by rw [hletters]; decide
      obtain ⟨c, hc, hlower⟩ := List.mem_map.mp hdot
      rwa [eq_dot_of_toLower hlower] at hc
  have hmarker : isDocumentMarker name = false := by
    refine Bool.eq_false_iff.mpr fun hmarker => h ?_
    obtain ⟨ending, hending, hsuffix⟩ := List.any_eq_true.mp hmarker
    have hdots : ∀ ending ∈ documentEndings, '.' ∈ ending.toList := by decide
    exact (List.isSuffixOf_iff_suffix.mp hsuffix).subset (hdots ending hending)
  rw [replaced, hdate, hmarker]
  rfl

theorem replaced_eq_self_iff :
    replaced name = ⟨name⟩ ↔ isDatabaseDate name = false ∧ isDocumentMarker name = false := by
  have hdate : isDatabaseDate "java.util.Date" = false := by decide
  have hdocument : isDocumentMarker "org.dom4j.Document" = false := by decide
  unfold replaced
  constructor
  · intro h
    split at h
    · next hyes =>
      rw [← TypeName.mk.inj h, hdate] at hyes
      cases hyes
    split at h
    · next hyes =>
      rw [← TypeName.mk.inj h, hdocument] at hyes
      cases hyes
    · next hno hnot => exact ⟨by simpa using hno, by simpa using hnot⟩
  · rintro ⟨hno, hnot⟩
    rw [hno, hnot]
    rfl

/-! ## The canonical name of a token, by its spelling -/

theorem ofName_of_qualified (h : '.' ∈ name.toList) (package : Option String) :
    ofName name package = replaced name := by
  have hwrappers : ∀ wrapper ∈ wrappers, '.' ∉ wrapper.toList := by decide
  unfold ofName replaced
  rw [if_neg fun hwrapper => hwrappers name hwrapper h, if_pos h]

theorem ofToken_of_javaLang {rest : List Char} (h : token.toList = "java.lang.".toList ++ rest)
    (package : Option String) : ofToken token package = ⟨String.ofList rest⟩ := by
  have hfound := List.isPrefixOf?_eq_some_iff_append_eq.mpr h.symm
  rw [ofToken, hfound]

theorem ofToken_of_not_javaLang (h : ¬ "java.lang.".toList <+: token.toList)
    (package : Option String) :
    ofToken token package =
      if token == "byte[]" then ⟨token⟩
      else ofName (if '.' ∈ token.toList then token else capitalize token) package := by
  have hnone : "java.lang.".toList.isPrefixOf? token.toList = none := by
    refine Option.eq_none_iff_forall_ne_some.mpr fun rest hrest => h ⟨rest, ?_⟩
    exact List.isPrefixOf?_eq_some_iff_append_eq.mp hrest
  rw [ofToken, hnone]

/-- A qualified token means the same in every package. -/
theorem ofToken_of_qualified (hdot : '.' ∈ token.toList)
    (h : ¬ "java.lang.".toList <+: token.toList) (package : Option String) :
    ofToken token package = replaced token := by
  have hbytes : token ≠ "byte[]" := by
    rintro rfl
    exact absurd hdot (by decide)
  rw [ofToken_of_not_javaLang h, if_neg (by simpa using hbytes), if_pos hdot,
    ofName_of_qualified hdot]

/-- A bare token is placed in the package of its document. -/
theorem ofToken_of_bare (hdot : '.' ∉ token.toList) (hbytes : token ≠ "byte[]")
    (hwrapper : capitalize token ∉ wrappers) (hpackage : package ≠ "") :
    ofToken token (some package) = ⟨package ++ "." ++ capitalize token⟩ := by
  have hlang : ¬ "java.lang.".toList <+: token.toList := fun h => hdot (h.subset (by decide))
  have hname : '.' ∉ (capitalize token).toList := mt dot_mem_capitalize_iff.mp hdot
  have hplain := replaced_eq_self_iff.mp (replaced_of_bare hname)
  rw [ofToken_of_not_javaLang hlang, if_neg (by simpa using hbytes), if_neg hdot, ofName,
    if_neg hwrapper, hplain.1, hplain.2, if_neg Bool.false_ne_true, if_neg Bool.false_ne_true,
    if_neg hname]
  simp [qualify, hpackage]

/-- The canonical name of a qualified token is canonical in every package. -/
theorem ofToken_replaced (hdot : '.' ∈ token.toList)
    (h : ¬ "java.lang.".toList <+: token.toList) (package : Option String) :
    ofToken (replaced token).qualified package = replaced token := by
  unfold replaced
  split
  · exact ofToken_of_qualified (by decide) (by decide) package
  · next hdate =>
    split
    · exact ofToken_of_qualified (by decide) (by decide) package
    · next hmarker =>
      rw [ofToken_of_qualified hdot h, replaced, if_neg hdate, if_neg hmarker]

/-! ## Bare and qualified -/

/-- A name in a package is one of `java.lang` exactly if its package is. -/
theorem javaLang_prefix_iff (hname : '.' ∉ name.toList) :
    "java.lang.".toList <+: (package ++ "." ++ name).toList ↔ InJavaLang package := by
  have htext : (package ++ "." ++ name).toList = package.toList ++ '.' :: name.toList := by simp
  have hlang : "java.lang.".toList = "java.lang".toList ++ ['.'] := by decide
  rw [htext]
  constructor
  · intro h
    rcases List.prefix_or_prefix_of_prefix h (List.prefix_append _ _) with hinside | hshort
    · exact .inr hinside
    rw [hlang] at h hshort
    rcases List.prefix_concat_iff.mp hshort with hwhole | ⟨rest, hrest⟩
    · exact .inr ⟨[], by rw [hlang, hwhole, List.append_nil]⟩
    -- the package ends within `java.lang`, so what is left of that starts with the dot
    rw [← hrest, List.append_assoc, List.prefix_append_right_inj] at h
    cases rest with
    | nil =>
      rw [List.append_nil] at hrest
      exact .inl (String.toList_inj.mp hrest)
    | cons c rest =>
      obtain ⟨-, hafter⟩ := List.cons_prefix_cons.mp h
      exact absurd (hafter.subset (by simp)) hname
  · rintro (rfl | h)
    · rw [hlang]
      exact ⟨name.toList, by simp⟩
    · exact h.trans (List.prefix_append _ _)

/-- A type of `java.lang` loses its package. -/
theorem ofToken_ne_of_javaLang (h : "java.lang.".toList <+: token.toList)
    (package : Option String) : ofToken token package ≠ ⟨token⟩ := by
  obtain ⟨rest, hrest⟩ := h
  rw [ofToken_of_javaLang hrest.symm]
  intro heq
  have htoken : rest = token.toList := by
    rw [← TypeName.mk.inj heq, String.toList_ofList]
  rw [← htoken, List.append_left_eq_self] at hrest
  exact absurd hrest (by decide)

/-- A bare token means the same as the qualified one, provided that its package is not `java.lang`
nor inside it and that the qualified name is not one of the types that are replaced. A qualified
token outside `java.lang` means the same in every package, and so does what it means. -/
theorem spellings_agree_iff :
    (∀ (token package : String) (other : Option String), '.' ∉ token.toList → token ≠ "byte[]" →
      capitalize token ∉ wrappers → package ≠ "" →
      (ofToken token (some package) = ofToken (package ++ "." ++ capitalize token) other ↔
        ¬ InJavaLang package ∧
        package ++ "." ++ capitalize token ≠ "java.sql.Date" ∧
        ¬ SameLetters (package ++ "." ++ capitalize token) "java.sql.Timestamp" ∧
        capitalize token ≠ "XmlBlobType" ∧ capitalize token ≠ "XmlClobType")) ∧
    ∀ token : String, '.' ∈ token.toList → ¬ "java.lang.".toList <+: token.toList →
      ∀ package other : Option String, ofToken token package = ofToken token other ∧
        ofToken (ofToken token package).qualified other = ofToken token package := by
  refine ⟨fun token package other hdot hbytes hwrapper hpackage => ?_,
    fun token hdot hlang package other => ?_⟩
  · have hname : '.' ∉ (capitalize token).toList := mt dot_mem_capitalize_iff.mp hdot
    have hqualified : '.' ∈ (package ++ "." ++ capitalize token).toList := by simp
    rw [ofToken_of_bare hdot hbytes hwrapper hpackage, eq_comm]
    by_cases hlang : InJavaLang package
    · have hne := ofToken_ne_of_javaLang ((javaLang_prefix_iff hname).mpr hlang) other
      exact ⟨fun h => absurd h hne, fun h => absurd hlang h.1⟩
    · rw [ofToken_of_qualified hqualified (mt (javaLang_prefix_iff hname).mp hlang),
        replaced_eq_self_iff, Bool.eq_false_iff, Bool.eq_false_iff, Ne, Ne, isDatabaseDate_iff,
        isDocumentMarker_iff hname]
      simp only [not_or, hlang, not_false_eq_true, true_and, ne_eq, and_assoc]
  · rw [ofToken_of_qualified hdot hlang package, ofToken_of_qualified hdot hlang other]
    exact ⟨rfl, ofToken_replaced hdot hlang other⟩

/-- A room of a school means the same in both spellings. A time stamp in a package that is called
like that of the database interface, in whatever case, does not. -/
theorem spellings_agree_room :
    ofToken "room" (some "school") = ofToken "school.Room" none ∧
      ofToken "timestamp" (some "Java.SQL") ≠ ofToken "Java.SQL.Timestamp" (some "school") ∧
      ofToken (ofToken "java.sql.Date" (some "school")).qualified none =
        ofToken "java.sql.Date" (some "school") := by
  have hroom := spellings_agree_iff.1 "room" "school" none (by decide) (by decide)
    (by decide +kernel) (by decide)
  have hstamp := spellings_agree_iff.1 "timestamp" "Java.SQL" (some "school") (by decide)
    (by decide) (by decide +kernel) (by decide)
  have hdate := spellings_agree_iff.2 "java.sql.Date" (by decide) (by decide) (some "school") none
  refine ⟨hroom.mpr ?_, mt hstamp.mp ?_, hdate.2⟩
  · decide +kernel
  · decide +kernel

end Java.TypeName

end EntityScaffold
