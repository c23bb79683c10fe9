import EntityScaffold.Proofs.DoctypeScan
import EntityScaffold.Proofs.DocumentDefinitions

/-!
# Documents with a comment

The identifiers of a document type are looked for in the raw text, so a comment in front of the root
element may be taken for the declaration. `identifiers?_written` says when: if there is a
`<!DOCTYPE` in the comment and none before it, the comment alone decides, and otherwise it has no
part in it.

Which definition a document has depends on its text through the identifiers only. Therefore a
comment makes no difference to any resolver exactly if it does not change the identifiers
(`comment_makes_no_difference_iff`).
-/

namespace EntityScaffold

open Text Xml

/-! ## Markers in composed texts -/

namespace Xml

variable {stop before after s : List Char}

/-- The marker cannot begin in the first text and end in the second. -/
def Apart (stop before after : List Char) : Prop :=
  (∀ c ∈ before.getLast?, c ∉ stop) ∨ ∀ c ∈ after.head?, c ∉ stop

theorem apart_of_getLast? {c : Char} (hc : c ∉ stop) (h : before.getLast? = some c)
    (after : List Char) : Apart stop before after := by
  refine .inl fun d hd => ?_
  rw [h] at hd
  exact Option.mem_some.mp hd ▸ hc

theorem apart_of_head? {c : Char} (hc : c ∉ stop) (h : after.head? = some c)
    (before : List Char) : Apart stop before after := by
  refine .inr fun d hd => ?_
  rw [h] at hd
  exact Option.mem_some.mp hd ▸ hc

theorem Apart.of_cons {c : Char} (h : Apart stop (c :: before) after) :
    Apart stop before after := by
  refine h.imp_left fun hlast d hd => hlast d ?_
  rw [List.getLast?_cons, Option.mem_def.mp hd]
  rfl

/-- A marker at the start of a text stands in the first part of it. -/
theorem Apart.prefix_of_prefix (h : Apart stop before after) (hne : before ≠ [])
    (hstarts : stop <+: before ++ after) : stop <+: before := by
  rcases List.prefix_or_prefix_of_prefix hstarts (List.prefix_append before after) with
    hinside | ⟨overlap, rfl⟩
  · exact hinside
  cases overlap with
  | nil => rw [List.append_nil]
  | cons d overlap =>
    rcases h with hlast | hfirst
    · refine absurd ?_ (hlast (before.getLast hne) (List.getLast?_eq_some_getLast hne))
      exact List.mem_append_left _ (List.getLast_mem hne)
    · rw [List.prefix_append_right_inj] at hstarts
      obtain ⟨rest, rfl⟩ := hstarts
      exact absurd (List.mem_append_right before List.mem_cons_self) (hfirst d rfl)

theorem Apart.infix_append_iff (h : Apart stop before after) :
    stop <:+: before ++ after ↔ stop <:+: before ∨ stop <:+: after := by
  constructor
  · intro hinfix
    induction before with
    | nil => exact .inr hinfix
    | cons c cs ih =>
      rcases List.infix_cons_iff.mp hinfix with hstarts | hrest
      · exact .inl (h.prefix_of_prefix (List.cons_ne_nil c cs) hstarts).isInfix
      · exact (ih h.of_cons hrest).imp_left List.infix_cons
  · rintro (hbefore | hafter)
    · exact List.infix_append_of_infix_left hbefore
    · exact List.infix_append_of_infix_right hafter

/-- A text without the marker is passed over. -/
theorem cutAt_append_of_not_infix (h : Apart stop before s) (hbefore : ¬ stop <:+: before) :
    cutAt stop (before ++ s) = (cutAt stop s).map fun (b, rest) => (before ++ b, rest) := by
  induction before with
  | nil => simp
  | cons c cs ih =>
    have hnot : stop.isPrefixOf? (c :: cs ++ s) = none := by
      refine Option.eq_none_iff_forall_ne_some.mpr fun rest hrest => hbefore ?_
      have hstarts : stop <+: c :: cs ++ s :=
        ⟨rest, List.isPrefixOf?_eq_some_iff_append_eq.mp hrest⟩
      exact (h.prefix_of_prefix (List.cons_ne_nil c cs) hstarts).isInfix
    rw [List.cons_append] at hnot
    rw [List.cons_append, cutAt, hnot, ih h.of_cons fun hcs => hbefore (List.infix_cons hcs)]
    cases cutAt stop s <;> rfl

theorem isPrefixOf?_append {rest : List Char} (h : stop.isPrefixOf? s = some rest)
    (more : List Char) : stop.isPrefixOf? (s ++ more) = some (rest ++ more) := by
  rw [← List.isPrefixOf?_eq_some_iff_append_eq.mp h, List.append_assoc]
  exact List.isPrefixOf?_eq_some_iff_append_eq.mpr rfl

/-- What follows a text leaves the place where it is cut alone. -/
theorem cutAt_append_of_eq_some {rest : List Char} (h : cutAt stop s = some (before, rest))
    (more : List Char) : cutAt stop (s ++ more) = some (before, rest ++ more) := by
  induction s generalizing before with
  | nil => exact absurd h nofun
  | cons c cs ih =>
    have hlength := congrArg List.length (append_of_cutAt_eq_some h)
    rw [List.length_append, List.length_append] at hlength
    unfold cutAt at h
    split at h
    · next found hfound =>
      obtain ⟨rfl, rfl⟩ := Prod.mk.inj (Option.some.inj h)
      have hmore := isPrefixOf?_append hfound more
      rw [List.cons_append] at hmore
      rw [List.cons_append, cutAt, hmore]
    · next hnone =>
      obtain ⟨⟨front, rest⟩, hcut, heq⟩ := Option.map_eq_some_iff.mp h
      obtain ⟨rfl, rfl⟩ := Prod.mk.inj heq
      -- the text is long enough for the marker, so one that starts here would be found in it
      have hnot : stop.isPrefixOf? (c :: cs ++ more) = none := by
        refine Option.eq_none_iff_forall_ne_some.mpr fun found hfound => ?_
        have hstarts : stop <+: c :: cs ++ more :=
          ⟨found, List.isPrefixOf?_eq_some_iff_append_eq.mp hfound⟩
        obtain ⟨here, hhere⟩ := List.prefix_of_prefix_length_le hstarts
          (List.prefix_append (c :: cs) more) (by omega)
        rw [List.isPrefixOf?_eq_some_iff_append_eq.mpr hhere] at hnone
        cases hnone
      rw [List.cons_append] at hnot
      rw [List.cons_append, cutAt, hnot, ih hcut, Option.map_some]

theorem exists_cutAt_of_infix (hne : stop ≠ []) (h : stop <:+: s) :
    ∃ before rest, cutAt stop s = some (before, rest) := by
  induction s with
  | nil => exact absurd (List.infix_nil.mp h) hne
  | cons c cs ih =>
    rw [cutAt]
    cases hfound : stop.isPrefixOf? (c :: cs) with
    | some rest => exact ⟨[], rest, rfl⟩
    | none =>
      rcases List.infix_cons_iff.mp h with ⟨rest, hrest⟩ | hcs
      · rw [List.isPrefixOf?_eq_some_iff_append_eq.mpr hrest] at hfound
        cases hfound
      · obtain ⟨before, rest, hcut⟩ := ih hcs
        exact ⟨c :: before, rest, by rw [hcut, Option.map_some]⟩

end Xml

namespace Schema

/-! ## Comments -/

/-- What a document type declaration starts with. -/
def doctypeMarker : List Char :=
  "<!DOCTYPE".toList

/-- The identifiers of a declaration, from what follows the marker. -/
def idsAfterMarker? (afterStart : List Char) : Option DoctypeIds := do
  let (declaration, _) ← cutAt ['>'] afterStart
  let (_, ids) ← cutAt "PUBLIC".toList declaration
  declaredIds? ids

theorem identifiers?_eq_bind (s : List Char) :
    identifiers? s = ((cutAt doctypeMarker s).map Prod.snd).bind idsAfterMarker? := by
  rw [Option.bind_map]
  rfl

/-- A text without a declaration is passed over. -/
theorem identifiers?_append_of_not_infix {before s : List Char}
    (h : Apart doctypeMarker before s) (hbefore : ¬ doctypeMarker <:+: before) :
    identifiers? (before ++ s) = identifiers? s := by
  rw [identifiers?_eq_bind, identifiers?_eq_bind, cutAt_append_of_not_infix h hbefore,
    Option.map_map]
  rfl

/-- A text that has the start of a declaration in it and ends with `>` has all of it. -/
theorem identifiers?_append_of_infix {s : List Char} (h : doctypeMarker <:+: s)
    (hend : s.getLast? = some '>') (more : List Char) :
    identifiers? (s ++ more) = identifiers? s := by
  obtain ⟨before, rest, hcut⟩ := exists_cutAt_of_infix (by decide) h
  have hrest : ['>'] <:+: rest := by
    rw [List.singleton_infix_iff]
    rw [append_of_cutAt_eq_some hcut, List.getLast?_append, List.getLast?_append] at hend
    cases hlast : rest.getLast? with
    | none =>
      have hmarker : doctypeMarker.getLast? = some 'E' := by decide
      rw [hlast, Option.none_or, hmarker, Option.some_or] at hend
      exact absurd hend (by decide)
    | some c =>
      rw [hlast] at hend
      exact Option.some.inj hend ▸ List.mem_of_getLast? hlast
  obtain ⟨declaration, afterEnd, hdeclaration⟩ := exists_cutAt_of_infix (List.cons_ne_nil _ _) hrest
  rw [identifiers?_eq_bind, identifiers?_eq_bind, cutAt_append_of_eq_some hcut, hcut]
  simp only [Option.map_some, Option.bind_some, idsAfterMarker?, hdeclaration,
    cutAt_append_of_eq_some hdeclaration, Option.bind_eq_bind]

/-- A comment of a document. -/
structure Comment where
  body : List Char
  no_dashes : ¬ "--".toList <:+: body
  no_dash_at_end : body.getLast? ≠ some '-'

namespace Comment

/-- The comment as it stands in the document. -/
def written (c : Comment) : List Char :=
  "<!--".toList ++ c.body ++ "-->".toList

theorem infix_written_iff (c : Comment) :
    doctypeMarker <:+: c.written ↔ doctypeMarker <:+: c.body := by
  have hdash : '-' ∉ doctypeMarker := by decide
  have hopening : Apart doctypeMarker "<!--".toList c.body := apart_of_getLast? hdash rfl c.body
  have hclosing : Apart doctypeMarker ("<!--".toList ++ c.body) "-->".toList :=
    apart_of_head? hdash rfl _
  have hneither : ¬ doctypeMarker <:+: "<!--".toList ∧ ¬ doctypeMarker <:+: "-->".toList := by
    decide
  rw [written, hclosing.infix_append_iff, hopening.infix_append_iff, or_iff_left hneither.2,
    or_iff_right hneither.1]

theorem getLast?_written (c : Comment) : c.written.getLast? = some '>' := by
  rw [written, List.getLast?_append_of_ne_nil _ (by decide)]
  rfl

end Comment

/-- A document into which a comment is put. What comes before it is nothing or ends with `>`, as an
XML declaration does. -/
structure Commented where
  front : List Char
  comment : Comment
  rest : List Char
  front_ends : front = [] ∨ front.getLast? = some '>'

namespace Commented

/-- The text without the comment. -/
def plain (d : Commented) : List Char :=
  d.front ++ d.rest

/-- The text with the comment. -/
def written (d : Commented) : List Char :=
  d.front ++ d.comment.written ++ d.rest

/-- If the first start of a declaration is in the comment, the comment alone decides, and otherwise
it has no part in it. -/
theorem identifiers?_written (d : Commented) :
    identifiers? d.written =
      if ¬ doctypeMarker <:+: d.front ∧ doctypeMarker <:+: d.comment.body then
        identifiers? d.comment.written
      else identifiers? d.plain := by
  have hmarker : '>' ∉ doctypeMarker := by decide
  have hend : d.front ≠ [] → d.front.getLast? = some '>' := d.front_ends.resolve_left
  by_cases hfront : doctypeMarker <:+: d.front
  · have hne : d.front ≠ [] := by
      rintro hnil
      rw [hnil] at hfront
      exact absurd hfront (by decide)
    have hpass (s : List Char) : identifiers? (d.front ++ s) = identifiers? d.front :=
      identifiers?_append_of_infix hfront (hend hne) s
    rw [if_neg fun h => h.1 hfront, written, plain, List.append_assoc, hpass, hpass]
  · have hpass (s : List Char) : identifiers? (d.front ++ s) = identifiers? s := by
      rcases eq_or_ne d.front [] with hnil | hne
      · rw [hnil, List.nil_append]
      · exact identifiers?_append_of_not_infix (apart_of_getLast? hmarker (hend hne) s) hfront
    rw [written, plain, List.append_assoc, hpass, hpass]
    by_cases hcomment : doctypeMarker <:+: d.comment.body
    · rw [if_pos ⟨hfront, hcomment⟩]
      exact identifiers?_append_of_infix (d.comment.infix_written_iff.mpr hcomment)
        d.comment.getLast?_written d.rest
    · have hapart := apart_of_getLast? hmarker d.comment.getLast?_written d.rest
      rw [if_neg fun h => hcomment h.2]
      exact identifiers?_append_of_not_infix hapart (mt d.comment.infix_written_iff.mp hcomment)

/-- The comment does not change the identifiers: it comes after the start of a declaration, has none
in it, or has in it what the document says anyway. -/
def KeepsIdentifiers (d : Commented) : Prop :=
  doctypeMarker <:+: d.front ∨ ¬ doctypeMarker <:+: d.comment.body ∨
    identifiers? d.comment.written = identifiers? d.plain

theorem keepsIdentifiers_iff (d : Commented) :
    d.KeepsIdentifiers ↔ identifiers? d.written = identifiers? d.plain := by
  rw [identifiers?_written, KeepsIdentifiers]
  split
  · next h => rw [or_iff_right h.1, or_iff_right (not_not_intro h.2)]
  · next h =>
    rw [not_and_or, not_not] at h
    exact iff_of_true (h.imp_right .inl) rfl

/-! ## A document with and without a comment -/

open FileTree

/-- At a path there is the document without the comment in the first world and with it in the
second, and nothing else is different. -/
structure Differ (d : Commented) (path : Path) (v w : World) : Prop where
  workingDirectory : w.workingDirectory = v.workingDirectory
  plain : v.readText path = .ok (String.ofList d.plain)
  written : w.readText path = .ok (String.ofList d.written)
  elsewhere : ∀ place, place ≠ path.location v.workingDirectory →
    w.tree.find? place = v.tree.find? place

theorem Differ.sameButTexts {d : Commented} {path : Path} {v w : World} (h : d.Differ path v w) :
    World.SameButTexts v w := by
  have hfile {w : World} {text : String} (htext : w.readText path = .ok text) :
      ∃ contents, w.tree.find? (path.location w.workingDirectory) = some (.file contents) ∧
        (String.fromUTF8? contents).isSome := by
    have hat := World.textAt?_of_readText htext
    unfold textAt? at hat
    split at hat
    · next contents hnode => exact ⟨contents, hnode, hat ▸ rfl⟩
    · cases hat
  refine ⟨h.workingDirectory, fun place => ?_⟩
  by_cases hplace : place = path.location v.workingDirectory
  · obtain ⟨a, ha, hatext⟩ := hfile h.plain
    obtain ⟨b, hb, hbtext⟩ := hfile h.written
    rw [h.workingDirectory] at hb
    rw [hplace]
    exact .inr ⟨a, b, ha, hb, hatext, hbtext⟩
  · exact .inl (h.elsewhere place hplace)

/-- A world with a text in a place, among other files and directories. -/
def worldWith (workingDirectory place : Location) (others : List (Location × Node))
    (text : List Char) : World :=
  ⟨⟨(place, .file (String.ofList text).toUTF8) :: others⟩, workingDirectory, []⟩

theorem differ_worldWith (d : Commented) {workingDirectory place : Location} {path : Path}
    {others : List (Location × Node)} (hplace : path.location workingDirectory = place)
    (hread : ∀ text, (worldWith workingDirectory place others text).tree.read workingDirectory
      path = .ok (String.ofList text).toUTF8) :
    d.Differ path (worldWith workingDirectory place others d.plain)
      (worldWith workingDirectory place others d.written) := by
  have hfound (text : List Char) :
      (worldWith workingDirectory place others text).readText path = .ok (String.ofList text) :=
    World.readText_of_read (hread text)
  refine ⟨rfl, hfound d.plain, hfound d.written, fun other hother => ?_⟩
  have hne : (other == place) = false := beq_false_of_ne (hplace ▸ hother)
  simp only [worldWith, find?, List.lookup_cons, hne]

/-- A comment makes no difference to the definition that is found, nor to the failure if there is
one, for any resolver and in any world, exactly if it does not change the identifiers. -/
theorem comment_makes_no_difference_iff (d : Commented) :
    (d.KeepsIdentifiers ↔
      ∀ (resolve : Resolver) (root : Path) (name : String) (v w : World),
        d.Differ (root.join ⟨name⟩) v w → resolve.find root name w = resolve.find root name v) ∧
    (d.KeepsIdentifiers → ∀ (r : Reader) (name : String) (v w : World),
      d.Differ (r.locate name) v w → r.definitionIn name w = r.definitionIn name v) := by
  have hkept (hkeeps : d.KeepsIdentifiers) (resolve : Resolver) (root : Path) (name : String)
      (v w : World) (hdiffer : d.Differ (root.join ⟨name⟩) v w) :
      resolve.find root name w = resolve.find root name v := by
    refine resolve.find_eq_of_identifiers? hdiffer.sameButTexts hdiffer.plain hdiffer.written ?_
    rw [String.toList_ofList, String.toList_ofList]
    exact d.keepsIdentifiers_iff.mp hkeeps
  refine ⟨⟨hkept, fun hsame => d.keepsIdentifiers_iff.mpr ?_⟩, fun hkeeps r name v w hdiffer => ?_⟩
  · -- a resolver that tells the identifiers of the plain document from all others
    let answer (ids : DoctypeIds) : String :=
      if identifiers? d.plain = some ids then "plain" else "other"
    have hdiffer : d.Differ ((⟨"/"⟩ : Path).join ⟨"document"⟩)
        (worldWith [] ["document"] [] d.plain) (worldWith [] ["document"] [] d.written) :=
      d.differ_worldWith rfl fun _ => rfl
    have hfound := hsame (fun ids => some (.text (answer ids))) ⟨"/"⟩ "document" _ _ hdiffer
    rw [Resolver.find_of_text hdiffer.plain, Resolver.find_of_text hdiffer.written,
      String.toList_ofList, String.toList_ofList] at hfound
    have hmap := Except.ok.inj hfound
    cases hplain : identifiers? d.plain with
    | none =>
      rw [hplain, Option.map_none, Option.map_eq_none_iff] at hmap
      exact hmap
    | some ids =>
      rw [hplain, Option.map_some, Option.map_eq_some_iff] at hmap
      obtain ⟨other, hother, hsame⟩ := hmap
      have hself : answer ids = "plain" := if_pos hplain
      have hanswer : answer other = "plain" := (Definition.text.inj hsame).trans hself
      have hids : identifiers? d.plain = some other := by
        by_contra hne
        rw [show answer other = "other" from if_neg hne] at hanswer
        exact absurd hanswer (by decide)
      rw [hother, ← hids, hplain]
  · rw [r.definitionIn_eq_find, r.definitionIn_eq_find, r.resolver_eq hdiffer.sameButTexts]
    exact hkept hkeeps _ r.root name v w hdiffer

/-- A document that belongs to no document type and says in a comment to which one it once did. -/
def formerMapping : Commented where
  front := "<?xml version=\"1.0\"?>".toList
  comment :=
    ⟨(" was: <!DOCTYPE hibernate-mapping " ++
      "PUBLIC \"-//Hibernate/Hibernate Mapping DTD 3.0//EN\" ").toList,
      by decide +kernel, by decide +kernel⟩
  rest := "<hibernate-mapping/>".toList
  front_ends := .inr (by decide)

/-- The comment is taken for the declaration: the definition is looked for, and as it cannot be
read, a document that could be read without the comment cannot be read any more. -/
theorem comment_taken_for_declaration :
    let others : List (Location × Node) := [(["work"], .directory), (["work", "org"], .directory),
      (["work", "org", "hibernate"], .directory),
      (["work", "org", "hibernate", "hibernate-mapping-3.0.dtd"], .directory)]
    let v := worldWith ["work"] ["work", "Room.hbm.xml"] others formerMapping.plain
    let w := worldWith ["work"] ["work", "Room.hbm.xml"] others formerMapping.written
    let r := Reader.ofRoot ⟨"."⟩
    formerMapping.Differ (r.locate "Room.hbm.xml") v w ∧
      r.definitionIn "Room.hbm.xml" v = .ok none ∧
      r.definitionIn "Room.hbm.xml" w = .error (.unreadableDtd
        "-//Hibernate/Hibernate Mapping DTD 3.0//EN"
        ⟨"./org/hibernate/hibernate-mapping-3.0.dtd"⟩ .isADirectory) := by
  intro others v w r
  have hpath : r.locate "Room.hbm.xml" = ⟨"./Room.hbm.xml"⟩ := by decide +kernel
  have hplace : (⟨"./Room.hbm.xml"⟩ : Path).location ["work"] = ["work", "Room.hbm.xml"] := rfl
  refine ⟨?_, ?_, ?_⟩
  · rw [hpath]
    exact formerMapping.differ_worldWith hplace fun _ => rfl
  · decide +kernel
  · decide +kernel

end Commented

end Schema

end EntityScaffold
