import EntityScaffold.Proofs.DocumentDefinitions

/-!
# When reading a document fails

A document below a root directory is read from one file, and at most one other file has a part in
it: the one that overrides the definition of the document type. `Reader.Outcome` lists what can come
of this, with the conditions on the two files and on the text of the document. These five cases are
exact (`reading_fails_exactly`). So reading fails if there is no text to read, and then if the text
declares a known document type whose overriding definition stands in the tree and is no text. What
stands in the tree for other document types makes no difference.
-/

namespace EntityScaffold

/-! ## Files with a text -/

namespace World

variable {w : World} {p : Path} {text : String} {cause : FileCause}

/-- The path leads to a file that holds the text. -/
def HasText (w : World) (p : Path) (text : String) : Prop :=
  w.tree.stat w.workingDirectory p = .ok (.file text.toUTF8)

/-- Why there is no text to read. -/
inductive Unreadable (w : World) (p : Path) : FileCause → Prop
  /-- The path leads nowhere. -/
  | nowhere {cause : FileCause} (h : w.tree.stat w.workingDirectory p = .error cause) :
      Unreadable w p cause
  | directory (h : w.tree.stat w.workingDirectory p = .ok .directory) :
      Unreadable w p .isADirectory
  | notText {contents : ByteArray} (h : w.tree.stat w.workingDirectory p = .ok (.file contents))
      (hcontents : ∀ text : String, contents ≠ text.toUTF8) : Unreadable w p .notText

/-- Something stands where the path leads. -/
def Holds (w : World) (p : Path) : Prop :=
  ∃ node, w.tree.stat w.workingDirectory p = .ok node

theorem holds_eq_true_iff : w.tree.holds w.workingDirectory p = true ↔ w.Holds p := by
  unfold FileTree.holds Holds
  cases w.tree.stat w.workingDirectory p <;> simp [Except.isOk, Except.toBool]

theorem readText_of_hasText (h : w.HasText p text) : w.readText p = .ok text :=
  readText_of_read (by rw [FileTree.read, h])

theorem readText_of_unreadable (h : w.Unreadable p cause) : w.readText p = .error cause := by
  rw [readText_eq, FileTree.read]
  cases h with
  | nowhere h => rw [h]
  | directory h => rw [h]
  | notText h hcontents =>
    have hnone := Option.eq_none_iff_forall_ne_some.mpr fun text htext =>
      hcontents text (Text.fromUTF8?_eq_some_iff.mp htext)
    rw [h]
    simp only [hnone]

/-- Either there is a text to read, or there is a cause why not. -/
theorem hasText_or_unreadable (w : World) (p : Path) :
    (∃ text, w.HasText p text) ∨ ∃ cause, w.Unreadable p cause := by
  cases hstat : w.tree.stat w.workingDirectory p with
  | error cause => exact .inr ⟨cause, .nowhere hstat⟩
  | ok node =>
    cases node with
    | directory => exact .inr ⟨_, .directory hstat⟩
    | file contents =>
      by_cases htext : ∃ text : String, contents = text.toUTF8
      · obtain ⟨text, rfl⟩ := htext
        exact .inl ⟨text, hstat⟩
      · exact .inr ⟨_, .notText hstat fun text hcontents => htext ⟨text, hcontents⟩⟩

theorem Unreadable.not_hasText (h : w.Unreadable p cause) : ¬ w.HasText p text := fun htext => by
  have hread := readText_of_hasText htext
  rw [readText_of_unreadable h] at hread
  cases hread

theorem HasText.unique {other : String} (h : w.HasText p text) (hother : w.HasText p other) :
    other = text := by
  have hread := readText_of_hasText h
  rw [readText_of_hasText hother] at hread
  exact Except.ok.inj hread

/-- What is read stands in the tree. -/
theorem HasText.holds (h : w.HasText p text) : w.Holds p :=
  ⟨_, h⟩

end World

namespace Schema

open World

variable {root : Path} {name text publicId : String} {w : World} {dtd : KnownDtd}
  {outcome : Except Failure Document}

theorem KnownDtd.ofPublicId?_eq_some_iff :
    ofPublicId? publicId = some dtd ↔ publicId = dtd.publicId := by
  constructor
  · intro h
    have hfound := List.find?_some (p := fun d : KnownDtd => d.publicId == publicId) h
    exact (eq_of_beq hfound).symm
  · rintro rfl
    exact dtd.ofPublicId?_publicId

/-- The text declares a known document type. -/
def Declares (text : String) (dtd : KnownDtd) : Prop :=
  ∃ ids, identifiers? text.toList = some ids ∧ ids.publicId = dtd.publicId

theorem Declares.unique {other : KnownDtd} (h : Declares text dtd) (hother : Declares text other) :
    other = dtd := by
  obtain ⟨ids, hids, hdtd⟩ := h
  obtain ⟨ids', hids', hother⟩ := hother
  rw [hids] at hids'
  cases hids'
  have hfound := KnownDtd.ofPublicId?_eq_some_iff.mpr hdtd
  rw [KnownDtd.ofPublicId?_eq_some_iff.mpr hother] at hfound
  exact Option.some.inj hfound

namespace Reader

/-- What comes of reading a document below a root directory. -/
inductive Outcome (root : Path) (name : String) (w : World) : Except Failure Document → Prop
  | unreadable {cause : FileCause} (h : w.Unreadable (root.join ⟨name⟩) cause) :
      Outcome root name w (.error (.file (root.join ⟨name⟩) cause))
  /-- The document is a text and declares a known type, but the definition that overrides the
  bundled one is no text. -/
  | unreadableDtd {text : String} {dtd : KnownDtd} {cause : FileCause}
      (htext : w.HasText (root.join ⟨name⟩) text) (hdtd : Declares text dtd)
      (hholds : w.Holds (root.join dtd.overridePath))
      (h : w.Unreadable (root.join dtd.overridePath) cause) :
      Outcome root name w (.error (.unreadableDtd dtd.publicId (root.join dtd.overridePath) cause))
  | overridden {text definition : String} {dtd : KnownDtd}
      (htext : w.HasText (root.join ⟨name⟩) text) (hdtd : Declares text dtd)
      (h : w.HasText (root.join dtd.overridePath) definition) :
      Outcome root name w
        (.ok ⟨name, root.join ⟨name⟩, text, some (.file (root.join dtd.overridePath))⟩)
  | bundled {text : String} {dtd : KnownDtd} (htext : w.HasText (root.join ⟨name⟩) text)
      (hdtd : Declares text dtd) (h : ¬ w.Holds (root.join dtd.overridePath)) :
      Outcome root name w (.ok ⟨name, root.join ⟨name⟩, text, some (.bundled dtd)⟩)
  /-- The document is a text that declares no document type, or one that is not known. -/
  | without {text : String} (htext : w.HasText (root.join ⟨name⟩) text)
      (h : ∀ dtd, ¬ Declares text dtd) :
      Outcome root name w (.ok ⟨name, root.join ⟨name⟩, text, none⟩)

/-! ## The five cases -/

open Attempt

theorem outcome_of_unreadable {cause : FileCause} (h : w.Unreadable (root.join ⟨name⟩) cause) :
    (((ofRoot root).read name).runIn w).1 = .error (.file (root.join ⟨name⟩) cause) := by
  have hlocate : (ofRoot root).locate name = root.join ⟨name⟩ := rfl
  unfold read
  rw [runIn_bind, runIn_file_readText, hlocate, readText_of_unreadable h]
  rfl

/-- A text without identifiers has no definition to look up. -/
theorem outcome_of_no_identifiers (htext : w.HasText (root.join ⟨name⟩) text)
    (hids : identifiers? text.toList = none) :
    (((ofRoot root).read name).runIn w).1 = .ok ⟨name, root.join ⟨name⟩, text, none⟩ := by
  have hlocate : (ofRoot root).locate name = root.join ⟨name⟩ := rfl
  unfold read
  rw [runIn_bind, runIn_file_readText, hlocate, readText_of_hasText htext]
  show (Attempt.runIn _ w).1 = _
  rw [hids]
  rfl

theorem outcome_of_identifiers {ids : DoctypeIds} (htext : w.HasText (root.join ⟨name⟩) text)
    (hids : identifiers? text.toList = some ids) :
    (((ofRoot root).read name).runIn w).1 = (((ofRoot root).resolveDtd name ids).runIn w).1.map
      fun dtd? => ⟨name, root.join ⟨name⟩, text, dtd?⟩ := by
  have hlocate : (ofRoot root).locate name = root.join ⟨name⟩ := rfl
  unfold read
  rw [runIn_bind, runIn_file_readText, hlocate, readText_of_hasText htext]
  show (Attempt.runIn _ w).1 = _
  rw [hids]
  simp only [runIn_bind_pure]

theorem source?_of_unknown (w : World) (lookup : DtdLookup)
    (h : KnownDtd.ofPublicId? publicId = none) :
    ((source? lookup publicId : Simulation (Option DtdSource)) w).1 = none := by
  unfold source?
  rw [h]
  cases lookup <;> rfl

/-- What stands at the place of an overriding definition comes first. -/
theorem source?_of_known (w : World) (root : Path) (dtd : KnownDtd) :
    ((source? (ofRoot root).lookup dtd.publicId : Simulation (Option DtdSource)) w).1 =
      some (if w.tree.holds w.workingDirectory (root.join dtd.overridePath) then
        .file (root.join dtd.overridePath) else .bundled dtd) := by
  cases dtd <;> rfl

theorem outcome_of_overridden (htext : w.HasText (root.join ⟨name⟩) text)
    (hdtd : Declares text dtd) (hholds : w.Holds (root.join dtd.overridePath)) :
    (((ofRoot root).read name).runIn w).1 =
      ((w.readText (root.join dtd.overridePath)).mapError
        (.unreadableDtd dtd.publicId (root.join dtd.overridePath))).map fun _ =>
          ⟨name, root.join ⟨name⟩, text, some (.file (root.join dtd.overridePath))⟩ := by
  obtain ⟨ids, hids, hpublic⟩ := hdtd
  rw [outcome_of_identifiers htext hids, resolveDtd_outcome, hpublic, source?_of_known,
    if_pos (holds_eq_true_iff.mpr hholds)]
  simp only
  cases w.readText (root.join dtd.overridePath) <;> rfl

/-- What a case says is what comes of reading. -/
theorem Outcome.eq (h : Outcome root name w outcome) :
    (((ofRoot root).read name).runIn w).1 = outcome := by
  cases h with
  | unreadable h => exact outcome_of_unreadable h
  | unreadableDtd htext hdtd hholds h =>
    rw [outcome_of_overridden htext hdtd hholds, readText_of_unreadable h]
    rfl
  | overridden htext hdtd h =>
    rw [outcome_of_overridden htext hdtd h.holds, readText_of_hasText h]
    rfl
  | bundled htext hdtd hholds =>
    obtain ⟨ids, hids, hpublic⟩ := hdtd
    rw [outcome_of_identifiers htext hids, resolveDtd_outcome, hpublic, source?_of_known,
      if_neg (mt holds_eq_true_iff.mp hholds)]
    rfl
  | without htext h =>
    cases hids : identifiers? _ with
    | none => exact outcome_of_no_identifiers htext hids
    | some ids =>
      have hunknown : KnownDtd.ofPublicId? ids.publicId = none :=
        Option.eq_none_iff_forall_ne_some.mpr fun dtd hdtd =>
          h dtd ⟨ids, hids, KnownDtd.ofPublicId?_eq_some_iff.mp hdtd⟩
      rw [outcome_of_identifiers htext hids, resolveDtd_outcome, source?_of_unknown w _ hunknown]
      rfl

/-- There is always one of the cases. -/
theorem exists_outcome (root : Path) (name : String) (w : World) :
    ∃ outcome, Outcome root name w outcome := by
  rcases w.hasText_or_unreadable (root.join ⟨name⟩) with ⟨text, htext⟩ | ⟨cause, hcause⟩
  · by_cases hdtd : ∃ dtd, Declares text dtd
    · obtain ⟨dtd, hdtd⟩ := hdtd
      by_cases hholds : w.Holds (root.join dtd.overridePath)
      · rcases w.hasText_or_unreadable (root.join dtd.overridePath) with ⟨_, h⟩ | ⟨_, h⟩
        · exact ⟨_, .overridden htext hdtd h⟩
        · exact ⟨_, .unreadableDtd htext hdtd hholds h⟩
      · exact ⟨_, .bundled htext hdtd hholds⟩
    · exact ⟨_, .without htext (not_exists.mp hdtd)⟩
  · exact ⟨_, .unreadable hcause⟩

theorem outcome_iff : (((ofRoot root).read name).runIn w).1 = outcome ↔
    Outcome root name w outcome := by
  refine ⟨fun h => ?_, Outcome.eq⟩
  obtain ⟨found, hfound⟩ := exists_outcome root name w
  rw [← h, hfound.eq]
  exact hfound

/-! ## Sources of definitions -/

section Source

variable {d : Document} (h : Outcome root name w (.ok d))

include h

/-- The definition is a file exactly if something stands where it would override the bundled one. -/
theorem Outcome.file_iff {location : Path} : d.dtd? = some (.file location) ↔
    ∃ dtd, Declares d.text dtd ∧ location = root.join dtd.overridePath ∧ w.Holds location := by
  cases h with
  | @overridden _ _ found _ hdtd hdefinition =>
    constructor
    · intro hsource
      cases hsource
      exact ⟨found, hdtd, rfl, hdefinition.holds⟩
    · rintro ⟨dtd, hdtd', rfl, -⟩
      rw [hdtd.unique hdtd']
  | bundled _ hdtd hholds =>
    refine iff_of_false nofun ?_
    rintro ⟨dtd, hdtd', rfl, hholds'⟩
    rw [hdtd.unique hdtd'] at hholds'
    exact hholds hholds'
  | without _ hnone => exact iff_of_false nofun fun ⟨dtd, hdtd, _⟩ => hnone dtd hdtd

theorem Outcome.bundled_iff : d.dtd? = some (.bundled dtd) ↔
    Declares d.text dtd ∧ ¬ w.Holds (root.join dtd.overridePath) := by
  cases h with
  | overridden _ hdtd hdefinition =>
    refine iff_of_false nofun ?_
    rintro ⟨hdtd', hholds⟩
    rw [hdtd.unique hdtd'] at hholds
    exact hholds hdefinition.holds
  | bundled _ hdtd hholds =>
    constructor
    · intro hsource
      cases hsource
      exact ⟨hdtd, hholds⟩
    · rintro ⟨hdtd', -⟩
      rw [hdtd.unique hdtd']
  | without _ hnone => exact iff_of_false nofun fun ⟨hdtd, _⟩ => hnone dtd hdtd

theorem Outcome.without_iff : d.dtd? = none ↔ ∀ dtd, ¬ Declares d.text dtd := by
  cases h with
  | overridden _ hdtd _ => exact iff_of_false nofun fun hnone => hnone _ hdtd
  | bundled _ hdtd _ => exact iff_of_false nofun fun hnone => hnone _ hdtd
  | without _ hnone => exact iff_of_true rfl hnone

end Source

/-! ## Failures -/

/-- No document is read exactly if there is no text. -/
theorem unreadable_iff : (∃ cause, Outcome root name w (.error (.file (root.join ⟨name⟩) cause))) ↔
    ¬ ∃ text, w.HasText (root.join ⟨name⟩) text := by
  constructor
  · rintro ⟨cause, houtcome⟩ ⟨text, htext⟩
    cases houtcome with
    | unreadable h => exact h.not_hasText htext
  · intro hnone
    obtain ⟨cause, hcause⟩ := (w.hasText_or_unreadable _).resolve_left hnone
    exact ⟨cause, .unreadable hcause⟩

section Text

variable (htext : w.HasText (root.join ⟨name⟩) text)

include htext

theorem unreadableDtd_iff {location : Path} :
    (∃ cause, Outcome root name w (.error (.unreadableDtd publicId location cause))) ↔
      ∃ dtd, Declares text dtd ∧ publicId = dtd.publicId ∧ location = root.join dtd.overridePath ∧
        w.Holds location ∧ ¬ ∃ definition, w.HasText location definition := by
  constructor
  · rintro ⟨cause, houtcome⟩
    cases houtcome with
    | unreadableDtd htext' hdtd hholds h =>
      rw [htext.unique htext'] at hdtd
      exact ⟨_, hdtd, rfl, rfl, hholds, fun ⟨_, hdefinition⟩ => h.not_hasText hdefinition⟩
  · rintro ⟨dtd, hdtd, rfl, rfl, hholds, hnone⟩
    obtain ⟨cause, hcause⟩ := (w.hasText_or_unreadable _).resolve_left hnone
    exact ⟨cause, .unreadableDtd htext hdtd hholds hcause⟩

theorem succeeds_iff : (∃ d, Outcome root name w (.ok d)) ↔
    ∀ dtd, Declares text dtd → w.Holds (root.join dtd.overridePath) →
      ∃ definition, w.HasText (root.join dtd.overridePath) definition := by
  constructor
  · rintro ⟨d, houtcome⟩ dtd hdtd hholds
    cases houtcome with
    | overridden htext' hdtd' h =>
      rw [htext.unique htext'] at hdtd'
      rw [hdtd.unique hdtd'] at h
      exact ⟨_, h⟩
    | bundled htext' hdtd' h =>
      rw [htext.unique htext'] at hdtd'
      rw [hdtd.unique hdtd'] at h
      exact absurd hholds h
    | without htext' h =>
      rw [htext.unique htext'] at h
      exact absurd hdtd (h dtd)
  · intro hdefinitions
    by_cases hdtd : ∃ dtd, Declares text dtd
    · obtain ⟨dtd, hdtd⟩ := hdtd
      by_cases hholds : w.Holds (root.join dtd.overridePath)
      · obtain ⟨_, hdefinition⟩ := hdefinitions dtd hdtd hholds
        exact ⟨_, .overridden htext hdtd hdefinition⟩
      · exact ⟨_, .bundled htext hdtd hholds⟩
    · exact ⟨_, .without htext (not_exists.mp hdtd)⟩

end Text

/-- When reading a document below a root directory fails, and with which source of a definition it
succeeds. -/
structure ReadsExactly (root : Path) (name : String) (w : World)
    (run : Except Failure Document × World) : Prop where
  tree_eq : run.2.tree = w.tree
  cases_iff : ∀ outcome, run.1 = outcome ↔ Outcome root name w outcome
  /-- The document cannot be read exactly if it is no text. -/
  file_iff : (∃ cause, run.1 = .error (.file (root.join ⟨name⟩) cause)) ↔
    ¬ ∃ text, w.HasText (root.join ⟨name⟩) text
  /-- The definition cannot be read exactly if it overrides that of a known document type and is no
  text. -/
  unreadableDtd_iff : ∀ text, w.HasText (root.join ⟨name⟩) text → ∀ publicId location,
    (∃ cause, run.1 = .error (.unreadableDtd publicId location cause)) ↔
      ∃ dtd, Declares text dtd ∧ publicId = dtd.publicId ∧ location = root.join dtd.overridePath ∧
        w.Holds location ∧ ¬ ∃ definition, w.HasText location definition
  /-- Otherwise reading succeeds. -/
  ok_iff : ∀ text, w.HasText (root.join ⟨name⟩) text → ((∃ d, run.1 = .ok d) ↔
    ∀ dtd, Declares text dtd → w.Holds (root.join dtd.overridePath) →
      ∃ definition, w.HasText (root.join dtd.overridePath) definition)
  overridden_iff : ∀ d, run.1 = .ok d → ∀ location, d.dtd? = some (.file location) ↔
    ∃ dtd, Declares d.text dtd ∧ location = root.join dtd.overridePath ∧ w.Holds location
  bundled_iff : ∀ d, run.1 = .ok d → ∀ dtd, d.dtd? = some (.bundled dtd) ↔
    Declares d.text dtd ∧ ¬ w.Holds (root.join dtd.overridePath)
  without_iff : ∀ d, run.1 = .ok d → (d.dtd? = none ↔ ∀ dtd, ¬ Declares d.text dtd)

/-- Reading a document leaves the tree as it is. It fails exactly if the document is no text, or
else if it declares a known document type and what stands at the place of an overriding definition
is no text. -/
theorem reading_fails_exactly (root : Path) (name : String) (w : World) :
    ReadsExactly root name w (((ofRoot root).read name).runIn w) where
  tree_eq := ((ofRoot root).keeps_read (R := Eq) name w).2.symm
  cases_iff _ := outcome_iff
  file_iff := by
    simp only [outcome_iff]
    exact unreadable_iff
  unreadableDtd_iff text htext publicId location := by
    simp only [outcome_iff]
    exact unreadableDtd_iff htext
  ok_iff text htext := by
    simp only [outcome_iff]
    exact succeeds_iff htext
  overridden_iff _ hrun _ := (outcome_iff.mp hrun).file_iff
  bundled_iff _ hrun _ := (outcome_iff.mp hrun).bundled_iff
  without_iff _ hrun := (outcome_iff.mp hrun).without_iff

end Reader

end Schema

end EntityScaffold
