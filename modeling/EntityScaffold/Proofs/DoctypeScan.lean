import Mathlib.Data.List.Infix
import Mathlib.Data.String.Basic
import EntityScaffold.Schema.Doctype
import EntityScaffold.Text.Pieces

/-!
# Declarations in a text

The identifiers of a document type are looked for in the text, not parsed. Still, whatever is
written as a declaration (`Declaration`) is read back: no marker is found too early, because each
starts with a character that does not come again in it, and the first `>` comes after both quoted
texts.

A scan that counts in bytes has to cut texts at offsets that it has computed. `Search.identifiers`
is the scan in this form, where a cut outside of a text or within a character is a fault. It finds
the same identifiers, and there is no text on which it comes to a fault
(`scan_reads_declarations`).
-/

namespace EntityScaffold

open Text Xml

/-! ## First occurrences -/

namespace Xml

variable {stop before rest : List Char}

theorem append_of_cutAt_eq_some {s : List Char} (h : cutAt stop s = some (before, rest)) :
    s = before ++ (stop ++ rest) := by
  induction s generalizing before with
  | nil => exact absurd h nofun
  | cons c cs ih =>
    unfold cutAt at h
    split at h
    · next found hfound =>
      obtain ⟨rfl, rfl⟩ := Prod.mk.inj (Option.some.inj h)
      exact (List.isPrefixOf?_eq_some_iff_append_eq.mp hfound).symm
    · obtain ⟨⟨before, rest⟩, hcut, heq⟩ := Option.map_eq_some_iff.mp h
      obtain ⟨rfl, rfl⟩ := Prod.mk.inj heq
      rw [ih hcut, List.cons_append]

/-- A marker whose first character does not come again in it does not overlap itself, so it is found
where it stands unless it stands earlier. -/
theorem cutAt_append {first : Char} {others : List Char} (hfirst : first ∉ others)
    (hbefore : ¬ first :: others <:+: before) (rest : List Char) :
    cutAt (first :: others) (before ++ (first :: others ++ rest)) = some (before, rest) := by
  induction before with
  | nil =>
    have hfound : (first :: others).isPrefixOf? (first :: others ++ rest) = some rest :=
      List.isPrefixOf?_eq_some_iff_append_eq.mpr rfl
    rw [List.cons_append] at hfound
    rw [List.nil_append, List.cons_append, cutAt, hfound]
  | cons c cs ih =>
    have hnot : (first :: others).isPrefixOf? (c :: cs ++ (first :: others ++ rest)) = none := by
      refine Option.eq_none_iff_forall_ne_some.mpr fun found hfound => ?_
      have hprefix : first :: others <+: c :: cs ++ (first :: others ++ rest) :=
        ⟨found, List.isPrefixOf?_eq_some_iff_append_eq.mp hfound⟩
      rcases List.prefix_or_prefix_of_prefix hprefix (List.prefix_append (c :: cs) _) with
        hinside | ⟨overlap, hoverlap⟩
      · exact hbefore hinside.isInfix
      rw [← hoverlap, List.prefix_append_right_inj, hoverlap] at hprefix
      cases overlap with
      | nil => exact hbefore (by rw [← hoverlap, List.append_nil])
      | cons d overlap =>
        -- the place of the marker would lie within the marker that is found
        have hd : d = first := (List.cons_prefix_cons.mp hprefix).1
        have hothers : cs ++ d :: overlap = others := (List.cons.inj hoverlap).2
        rw [← hothers, hd] at hfirst
        exact hfirst (List.mem_append_right _ List.mem_cons_self)
    have hcs : ¬ first :: others <:+: cs := fun h =>
      hbefore (h.trans (List.suffix_cons c cs).isInfix)
    rw [List.cons_append] at hnot
    rw [List.cons_append, cutAt, hnot, ih hcs, Option.map_some]

theorem cutAt_singleton {c : Char} (h : c ∉ before) (rest : List Char) :
    cutAt [c] (before ++ c :: rest) = some (before, rest) :=
  cutAt_append List.not_mem_nil (mt (List.singleton_infix_iff c before).mp h) rest

end Xml

namespace Schema

/-! ## Declarations -/

/-- White space, or nothing. -/
abbrev Blanks :=
  { s : List Char // s.all isBlank }

/-- A character that opens and closes a quoted text. -/
def IsQuote (c : Char) : Prop :=
  c = '"' ∨ c = '\''

/-- A text in quotes that may stand in a declaration. -/
structure QuotedText where
  quote : Char
  content : List Char
  isQuote : IsQuote quote
  quote_not_mem : quote ∉ content
  end_not_mem : '>' ∉ content

namespace QuotedText

/-- The text with its quotes. -/
def written (q : QuotedText) : List Char :=
  q.quote :: q.content ++ [q.quote]

end QuotedText

/-- The first character that is not blank in the rest of a declaration, which ends at the first
`>`. -/
def next? (s : List Char) : Option Char :=
  (dropBlanks (s.takeWhile (· != '>'))).head?

/-- What follows the public identifier, to the end of the text. -/
inductive Ending where
  | system (gap : Blanks) (literal : QuotedText) (rest : List Char) (hend : '>' ∈ rest)
  | unquoted (rest : List Char) (hend : '>' ∈ rest) (hnext : ∀ c ∈ next? rest, ¬ IsQuote c)

namespace Ending

def written : Ending → List Char
  | system gap literal rest _ => gap ++ literal.written ++ rest
  | unquoted rest _ _ => rest

/-- The system identifier, if there is one. -/
def systemId? : Ending → Option String
  | system _ literal _ _ => some (String.ofList literal.content)
  | unquoted _ _ _ => none

end Ending

/-- A text with a declaration in it. The name of the root element may be any text that does not end
the declaration or look like the keyword. -/
structure Declaration where
  prolog : List Char
  beforeRoot : Blanks
  root : List Char
  afterRoot : Blanks
  beforeId : Blanks
  publicId : QuotedText
  ending : Ending
  start_not_in_prolog : ¬ "<!DOCTYPE".toList <:+: prolog
  keyword_not_in_root : ¬ "PUBLIC".toList <:+: root
  end_not_mem_root : '>' ∉ root

namespace Declaration

/-- The text. -/
def written (d : Declaration) : List Char :=
  d.prolog ++ "<!DOCTYPE".toList ++ d.beforeRoot ++ d.root ++ d.afterRoot ++ "PUBLIC".toList ++
    d.beforeId ++ d.publicId.written ++ d.ending.written

/-- The identifiers. -/
def ids (d : Declaration) : DoctypeIds :=
  ⟨String.ofList d.publicId.content, d.ending.systemId?⟩

end Declaration

/-! ## What the scan finds in them -/

/-- White space around a text does not bring about another marker. -/
theorem infix_of_infix_append_blanks {l s : List Char} (hne : l ≠ [])
    (hl : l.any isBlank = false) (before after : Blanks)
    (h : l <:+: before ++ s ++ after) : l <:+: s := by
  have hleft {l s : List Char} (hne : l ≠ []) (hl : l.any isBlank = false)
      {gap : List Char} (hgap : gap.all isBlank) (h : l <:+: gap ++ s) : l <:+: s := by
    induction gap with
    | nil => exact h
    | cons c gap ih =>
      rw [List.all_cons, Bool.and_eq_true] at hgap
      rcases List.infix_cons_iff.mp h with hprefix | hinfix
      · cases l with
        | nil => exact absurd rfl hne
        | cons d l =>
          have hd := List.any_eq_false.mp hl d List.mem_cons_self
          rw [(List.cons_prefix_cons.mp hprefix).1] at hd
          exact absurd hgap.1 hd
      · exact ih hgap.2 hinfix
  rw [List.append_assoc] at h
  have hrest := List.reverse_infix.mpr (hleft hne hl before.2 h)
  rw [List.reverse_append] at hrest
  refine List.reverse_infix.mp (hleft (by simpa using hne) ?_ ?_ hrest)
  · rw [List.any_reverse, hl]
  · rw [List.all_reverse, after.2]

theorem IsQuote.isBlank_eq_false {c : Char} (h : IsQuote c) : isBlank c = false := by
  rcases h with rfl | rfl <;> rfl

theorem quotedId?_of_isQuote {s body : List Char} {quote : Char}
    (hdrop : dropBlanks s = quote :: body) (hquote : IsQuote quote) :
    quotedId? s = cutAt [quote] body := by
  unfold quotedId?
  rw [hdrop]
  rcases hquote with rfl | rfl <;> rfl

theorem quotedId?_written (gap : Blanks) (q : QuotedText) (rest : List Char) :
    quotedId? (gap ++ q.written ++ rest) = some (q.content, rest) := by
  have hdrop : dropBlanks (gap ++ q.written ++ rest) =
      q.quote :: (q.content ++ q.quote :: rest) := by
    rw [List.append_assoc, dropBlanks, List.dropWhile_append_of_pos (List.all_eq_true.mp gap.2),
      QuotedText.written]
    simp [q.isQuote.isBlank_eq_false]
  rw [quotedId?_of_isQuote hdrop q.isQuote, cutAt_singleton q.quote_not_mem]

theorem quotedId?_eq_none {s : List Char} (h : ∀ c ∈ (dropBlanks s).head?, ¬ IsQuote c) :
    quotedId? s = none := by
  unfold quotedId?
  split
  · next hs => exact absurd (.inl rfl) (h '"' (by rw [hs]; rfl))
  · next hs => exact absurd (.inr rfl) (h '\'' (by rw [hs]; rfl))
  · rfl

theorem Blanks.not_mem {c : Char} (gap : Blanks) (h : isBlank c = false) : c ∉ gap.1 := by
  intro hmem
  rw [List.all_eq_true.mp gap.2 c hmem] at h
  cases h

/-- The rest of a declaration has the system identifier in it, up to the first `>`. -/
theorem Ending.exists_cut (e : Ending) : ∃ before after, e.written = before ++ '>' :: after ∧
    '>' ∉ before ∧
    (quotedId? before).map (fun (systemId, _) => String.ofList systemId) = e.systemId? := by
  cases e with
  | system gap literal rest hend =>
    obtain ⟨after, hrest⟩ := exists_eq_takeWhile_append hend
    refine ⟨gap ++ literal.written ++ rest.takeWhile (· != '>'), after, ?_, ?_, ?_⟩
    · rw [List.append_assoc _ _ ('>' :: after), ← hrest]
      rfl
    · have hquote : '>' ≠ literal.quote := by
        rcases literal.isQuote with h | h <;> rw [h] <;> decide
      have hgap : '>' ∉ gap.1 := gap.not_mem (by decide)
      simp [QuotedText.written, hgap, literal.end_not_mem, hquote, not_mem_takeWhile_ne]
    · rw [quotedId?_written]
      rfl
  | unquoted rest hend hnext =>
    obtain ⟨after, hrest⟩ := exists_eq_takeWhile_append hend
    refine ⟨rest.takeWhile (· != '>'), after, hrest, not_mem_takeWhile_ne _ _, ?_⟩
    rw [quotedId?_eq_none hnext]
    rfl

theorem Declaration.identifiers?_written (d : Declaration) :
    identifiers? d.written = some d.ids := by
  obtain ⟨before, after, hending, hbefore, hsystem⟩ := d.ending.exists_cut
  have hkeyword : ¬ "PUBLIC".toList <:+: d.beforeRoot ++ d.root ++ d.afterRoot := fun h =>
    d.keyword_not_in_root
      (infix_of_infix_append_blanks (by decide) (by decide) d.beforeRoot d.afterRoot h)
  have hquote : '>' ≠ d.publicId.quote := by
    rcases d.publicId.isQuote with h | h <;> rw [h] <;> decide
  have hgap (gap : Blanks) : '>' ∉ gap.1 := gap.not_mem (by decide)
  have hend : '>' ∉ d.beforeRoot ++ d.root ++ d.afterRoot ++ ("PUBLIC".toList ++
      (d.beforeId ++ d.publicId.written ++ before)) := by
    simp [QuotedText.written, hgap, d.end_not_mem_root, d.publicId.end_not_mem, hquote, hbefore]
  have hwritten : d.written = d.prolog ++ ("<!DOCTYPE".toList ++
      (d.beforeRoot ++ d.root ++ d.afterRoot ++ ("PUBLIC".toList ++
        (d.beforeId ++ d.publicId.written ++ before)) ++ '>' :: after)) := by
    rw [written, hending]
    simp only [List.append_assoc]
  have hstart (rest : List Char) : cutAt "<!DOCTYPE".toList
      (d.prolog ++ ("<!DOCTYPE".toList ++ rest)) = some (d.prolog, rest) :=
    cutAt_append (by decide) d.start_not_in_prolog rest
  have hpublic (rest : List Char) : cutAt "PUBLIC".toList
      (d.beforeRoot ++ d.root ++ d.afterRoot ++ ("PUBLIC".toList ++ rest)) =
        some (d.beforeRoot ++ d.root ++ d.afterRoot, rest) :=
    cutAt_append (by decide) hkeyword rest
  have hids : declaredIds? (d.beforeId ++ d.publicId.written ++ before) = some d.ids := by
    rw [declaredIds?, quotedId?_written, Option.map_some, Declaration.ids, ← hsystem]
  rw [hwritten]
  simp only [identifiers?, hstart, cutAt_singleton hend, hpublic, Option.bind_eq_bind,
    Option.bind_some, hids]

/-! ## Offsets in bytes -/

/-- A cut of a text at an offset that is not the start of a character or the end of the text. -/
structure SliceFault where
  text : String
  offset : Nat

/-- The text from an offset on. -/
def sliceFrom (s : String) (offset : Nat) : Except SliceFault String :=
  if String.Pos.Raw.isValid s ⟨offset⟩ then .ok (String.Pos.Raw.extract s ⟨offset⟩ s.rawEndPos)
  else .error ⟨s, offset⟩

/-- The text up to an offset. -/
def sliceTo (s : String) (offset : Nat) : Except SliceFault String :=
  if String.Pos.Raw.isValid s ⟨offset⟩ then .ok (String.Pos.Raw.extract s 0 ⟨offset⟩)
  else .error ⟨s, offset⟩

/-- The offset of the first occurrence of a marker. -/
def offsetOf? (stop : List Char) : List Char → Option Nat
  | [] => none
  | c :: cs =>
    if stop.isPrefixOf (c :: cs) then some 0 else (offsetOf? stop cs).map (c.utf8Size + ·)

/-- A search in a text, in which every cut may be a fault. -/
abbrev Search (α : Type) :=
  OptionT (Except SliceFault) α

namespace Search

/-- The result of a search that came to no fault. -/
def found {α : Type} (result? : Option α) : Search α :=
  .mk (.ok result?)

/-- The text from the first occurrence of a marker on. -/
def fromMarker (stop : List Char) (s : String) : Search String := do
  let offset ← found (offsetOf? stop s.toList)
  sliceFrom s offset

/-- The text before the first occurrence of a marker. -/
def upToMarker (stop : List Char) (s : String) : Search String := do
  let offset ← found (offsetOf? stop s.toList)
  sliceTo s offset

/-- The text after the first occurrence of a marker. -/
def afterMarker (stop : List Char) (s : String) : Search String := do
  let offset ← found (offsetOf? stop s.toList)
  sliceFrom s (offset + String.utf8Len stop)

/-- The text between two quotes of one kind after optional white space, and what follows it. A quote
is taken to be one byte long. -/
def quotedId (s : String) : Search (String × String) := do
  let s := String.ofList (dropBlanks s.toList)
  let quote ← found (s.toList.head?.filter fun c => c == '"' || c == '\'')
  let body ← sliceFrom s 1
  let offset ← found (offsetOf? [quote] body.toList)
  return (← sliceTo body offset, ← sliceFrom body (offset + 1))

/-- The identifiers of the document type that a text declares. -/
def identifiers (text : String) : Search DoctypeIds := do
  let fromStart ← fromMarker "<!DOCTYPE".toList text
  let declaration ← upToMarker ['>'] fromStart
  let ids ← afterMarker "PUBLIC".toList declaration
  let (publicId, rest) ← quotedId ids
  let system? ← OptionT.lift (quotedId rest).run
  return ⟨publicId, system?.map (·.1)⟩

end Search

theorem isValid_append (a b : List Char) :
    String.Pos.Raw.isValid (String.ofList (a ++ b)) ⟨String.utf8Len a⟩ = true := by
  rw [String.Pos.Raw.isValid_eq_true_iff, String.Pos.Raw.isValid_ofList]
  exact ⟨a.length, by rw [List.take_left, String.utf8ByteSize_ofList]⟩

theorem sliceFrom_append (a b : List Char) :
    sliceFrom (String.ofList (a ++ b)) (String.utf8Len a) = .ok (String.ofList b) := by
  have hextract := String.extract_of_valid a b []
  have hend : (String.ofList (a ++ b)).rawEndPos = ⟨String.utf8Len a + String.utf8Len b⟩ := by
    rw [String.rawEndPos, String.utf8ByteSize_ofList, String.utf8Len_append]
  rw [List.append_nil] at hextract
  rw [sliceFrom, isValid_append, if_pos rfl, hend, hextract]

theorem sliceTo_append (a b : List Char) :
    sliceTo (String.ofList (a ++ b)) (String.utf8Len a) = .ok (String.ofList a) := by
  have hextract := String.extract_of_valid [] a b
  rw [List.nil_append, String.utf8Len_nil, Nat.zero_add] at hextract
  rw [sliceTo, isValid_append, if_pos rfl]
  exact congrArg Except.ok hextract

theorem offsetOf?_eq_map_cutAt (stop s : List Char) :
    offsetOf? stop s = (cutAt stop s).map fun (before, _) => String.utf8Len before := by
  induction s with
  | nil => rfl
  | cons c cs ih =>
    have hprefix := List.isSome_isPrefixOf?_eq_isPrefixOf stop (c :: cs)
    rw [offsetOf?, cutAt, ih]
    cases hfound : stop.isPrefixOf? (c :: cs) with
    | some rest =>
      rw [hfound] at hprefix
      rw [← hprefix]
      rfl
    | none =>
      rw [hfound] at hprefix
      rw [← hprefix]
      cases cutAt stop cs <;> simp [Nat.add_comm]

namespace Search

theorem found_none_bind {α β : Type} (next : α → Search β) :
    found none >>= next = found none :=
  rfl

theorem found_some_bind {α β : Type} (a : α) (next : α → Search β) :
    found (some a) >>= next = next a :=
  rfl

theorem fromMarker_eq (stop s : List Char) : fromMarker stop (String.ofList s) =
    found ((cutAt stop s).map fun (_, rest) => String.ofList (stop ++ rest)) := by
  rw [fromMarker, String.toList_ofList, offsetOf?_eq_map_cutAt]
  cases hcut : cutAt stop s with
  | none => rfl
  | some parts =>
    obtain ⟨before, rest⟩ := parts
    rw [append_of_cutAt_eq_some hcut]
    simp only [Option.map_some, found_some_bind, sliceFrom_append]
    rfl

theorem upToMarker_eq (stop s : List Char) : upToMarker stop (String.ofList s) =
    found ((cutAt stop s).map fun (before, _) => String.ofList before) := by
  rw [upToMarker, String.toList_ofList, offsetOf?_eq_map_cutAt]
  cases hcut : cutAt stop s with
  | none => rfl
  | some parts =>
    obtain ⟨before, rest⟩ := parts
    rw [append_of_cutAt_eq_some hcut]
    simp only [Option.map_some, found_some_bind, sliceTo_append]
    rfl

theorem afterMarker_eq (stop s : List Char) : afterMarker stop (String.ofList s) =
    found ((cutAt stop s).map fun (_, rest) => String.ofList rest) := by
  rw [afterMarker, String.toList_ofList, offsetOf?_eq_map_cutAt]
  cases hcut : cutAt stop s with
  | none => rfl
  | some parts =>
    obtain ⟨before, rest⟩ := parts
    rw [append_of_cutAt_eq_some hcut, ← List.append_assoc]
    simp only [Option.map_some, found_some_bind, ← String.utf8Len_append, sliceFrom_append]
    rfl

theorem quotedId_eq (s : List Char) : quotedId (String.ofList s) =
    found ((quotedId? s).map fun (id, rest) => (String.ofList id, String.ofList rest)) := by
  have hfilter (c : Char) : (c == '"' || c == '\'') = true ↔ IsQuote c := by simp [IsQuote]
  unfold quotedId
  simp only [String.toList_ofList]
  by_cases hquoted : ∃ c ∈ (dropBlanks s).head?, IsQuote c
  · obtain ⟨quote, hhead, hquote⟩ := hquoted
    obtain ⟨body, hdrop⟩ := List.head?_eq_some_iff.mp hhead
    have hsize : String.utf8Len [quote] = 1 := by rcases hquote with rfl | rfl <;> decide
    have hbody := sliceFrom_append [quote] body
    rw [hsize, List.singleton_append] at hbody
    rw [quotedId?_of_isQuote hdrop hquote]
    simp only [hdrop, List.head?_cons, Option.filter_some, (hfilter quote).mpr hquote, if_true,
      found_some_bind, hbody]
    change (found (offsetOf? [quote] (String.ofList body).toList) >>= _) = _
    rw [String.toList_ofList, offsetOf?_eq_map_cutAt]
    cases hcut : cutAt [quote] body with
    | none => rfl
    | some parts =>
      obtain ⟨before, rest⟩ := parts
      have hrest := sliceFrom_append (before ++ [quote]) rest
      rw [String.utf8Len_append, hsize, List.append_assoc] at hrest
      rw [append_of_cutAt_eq_some hcut, Option.map_some, found_some_bind, sliceTo_append, hrest]
      rfl
  · have hnone : ∀ c ∈ (dropBlanks s).head?, ¬ IsQuote c := fun c hc hquote =>
      hquoted ⟨c, hc, hquote⟩
    have hfiltered : (dropBlanks s).head?.filter (fun c => c == '"' || c == '\'') = none := by
      rw [Option.filter_eq_none_iff]
      exact fun c hc hquote => hnone c hc ((hfilter c).mp hquote)
    rw [quotedId?_eq_none hnone, hfiltered, found_none_bind]
    rfl

theorem identifiers_eq (text : List Char) :
    identifiers (String.ofList text) = found (identifiers? text) := by
  -- the text that is searched for the other two markers still has the first one in front of it
  have hdeclaration (rest : List Char) :
      upToMarker ['>'] (String.ofList ("<!DOCTYPE".toList ++ rest)) =
        found ((cutAt ['>'] rest).map fun (before, _) =>
          String.ofList ("<!DOCTYPE".toList ++ before)) := by
    rw [upToMarker_eq]
    simp [cutAt, List.isPrefixOf?, Function.comp_def]
  have hids (rest : List Char) :
      afterMarker "PUBLIC".toList (String.ofList ("<!DOCTYPE".toList ++ rest)) =
        found ((cutAt "PUBLIC".toList rest).map fun (_, ids) => String.ofList ids) := by
    rw [afterMarker_eq]
    simp [cutAt, List.isPrefixOf?, Function.comp_def]
  rw [identifiers, fromMarker_eq]
  unfold identifiers?
  cases cutAt "<!DOCTYPE".toList text with
  | none => rfl
  | some parts =>
    obtain ⟨prolog, rest⟩ := parts
    simp only [Option.map_some, found_some_bind, hdeclaration, Option.bind_eq_bind,
      Option.bind_some]
    cases cutAt ['>'] rest with
    | none => rfl
    | some parts =>
      obtain ⟨declaration, after⟩ := parts
      simp only [Option.map_some, found_some_bind, hids, Option.bind_some]
      cases cutAt "PUBLIC".toList declaration with
      | none => rfl
      | some parts =>
        obtain ⟨before, ids⟩ := parts
        simp only [Option.map_some, found_some_bind, quotedId_eq, Option.bind_some, declaredIds?]
        cases quotedId? ids with
        | none => rfl
        | some parts =>
          obtain ⟨publicId, rest⟩ := parts
          simp only [Option.map_some, found_some_bind, quotedId_eq]
          cases quotedId? rest <;> rfl

end Search

/-- Whatever is written as a declaration is read back. On any text at all, the scan that cuts at
offsets in bytes comes to no fault and finds the same. -/
theorem scan_reads_declarations :
    (∀ d : Declaration, identifiers? d.written = some d.ids) ∧
      ∀ text : String, (Search.identifiers text).run = .ok (identifiers? text.toList) := by
  refine ⟨fun d => d.identifiers?_written, fun text => ?_⟩
  have hsearch := Search.identifiers_eq text.toList
  rw [String.ofList_toList] at hsearch
  rw [hsearch]
  rfl

/-! ### A declaration with both kinds of quotes -/

/-- A declaration with the keyword and a tag in its system identifier, and with a second declaration
after it. -/
def busyDeclaration : Declaration where
  prolog := "<?xml version='1.0'?>\n<!-- ÄÖÜ -->".toList
  beforeRoot := ⟨" ".toList, rfl⟩
  root := "map".toList
  afterRoot := ⟨"\n\t".toList, rfl⟩
  beforeId := ⟨[], rfl⟩
  publicId := ⟨'"', "-//it's//EN".toList, .inl rfl, by decide, by decide⟩
  ending := .system ⟨" ".toList, rfl⟩
    ⟨'\'', "PUBLIC \"x\" <é".toList, .inr rfl, by decide, by decide⟩
    " []><!DOCTYPE b PUBLIC 'c'>".toList (by decide)
  start_not_in_prolog := by decide
  keyword_not_in_root := by decide
  end_not_mem_root := by decide

theorem scan_reads_declarations_busy :
    identifiers? ("<?xml version='1.0'?>\n<!-- ÄÖÜ --><!DOCTYPE map\n\tPUBLIC\"-//it's//EN\" " ++
        "'PUBLIC \"x\" <é' []><!DOCTYPE b PUBLIC 'c'>").toList =
      some ⟨"-//it's//EN", some "PUBLIC \"x\" <é"⟩ := by
  have hwritten : busyDeclaration.written =
      ("<?xml version='1.0'?>\n<!-- ÄÖÜ --><!DOCTYPE map\n\tPUBLIC\"-//it's//EN\" " ++
        "'PUBLIC \"x\" <é' []><!DOCTYPE b PUBLIC 'c'>").toList := by decide +kernel
  have hids : busyDeclaration.ids = ⟨"-//it's//EN", some "PUBLIC \"x\" <é"⟩ := by decide +kernel
  rw [← hwritten, ← hids]
  exact scan_reads_declarations.1 busyDeclaration

end Schema

end EntityScaffold
