import EntityScaffold.Proofs.SchemaContents

/-!
# Which definition a document has

Reading a document finds the definition of its type, or fails. This depends on its text through the
identifiers only, whatever resolver answers for them (`Resolver.find_eq_of_identifiers?`): as long
as files stay files with a text in them, no other text has a part in it. A reader finds what its own
resolver answers (`Reader.definitionIn_eq_find`), and this resolver looks for files, not into them
(`Reader.resolver_eq`).
-/

namespace EntityScaffold

/-! ## Other texts in the same files -/

namespace FileTree

variable {t u : FileTree}

/-- The trees are the same but for the texts of files. -/
def SameButTexts (t u : FileTree) : Prop :=
  ∀ place, u.find? place = t.find? place ∨
    ∃ a b, t.find? place = some (.file a) ∧ u.find? place = some (.file b) ∧
      (String.fromUTF8? a).isSome ∧ (String.fromUTF8? b).isSome

namespace SameButTexts

theorem walk_eq (h : SameButTexts t u) (here : Location) (names : List String) :
    u.walk here names = t.walk here names := by
  induction names generalizing here with
  | nil => rfl
  | cons name names ih =>
    rw [walk, walk, ih, ih]
    rcases h (here ++ [name]) with hsame | ⟨a, b, ha, hb, -, -⟩
    · rw [hsame]
      simp only [ih]
    · rw [ha, hb]

theorem slot_eq (h : SameButTexts t u) (workingDirectory : Location) (p : Path) :
    u.slot workingDirectory p = t.slot workingDirectory p := by
  unfold slot
  simp only [h.walk_eq]

/-- What a path leads to is the same, or it is a text in both trees. -/
theorem stat_cases (h : SameButTexts t u) (workingDirectory : Location) (p : Path) :
    u.stat workingDirectory p = t.stat workingDirectory p ∨
      ∃ a b, t.stat workingDirectory p = .ok (.file a) ∧ u.stat workingDirectory p = .ok (.file b) ∧
        (String.fromUTF8? a).isSome ∧ (String.fromUTF8? b).isSome := by
  unfold stat
  rw [h.slot_eq]
  cases t.slot workingDirectory p with
  | error cause => exact .inl rfl
  | ok s =>
    simp only
    rcases h s.location with hsame | ⟨a, b, ha, hb, hatext, hbtext⟩
    · rw [hsame]
      exact .inl rfl
    · rw [ha, hb]
      cases s.directoryOnly with
      | true => exact .inl rfl
      | false => exact .inr ⟨a, b, rfl, rfl, hatext, hbtext⟩

theorem holds_eq (h : SameButTexts t u) (workingDirectory : Location) (p : Path) :
    u.holds workingDirectory p = t.holds workingDirectory p := by
  unfold holds
  rcases h.stat_cases workingDirectory p with hsame | ⟨a, b, ha, hb, -, -⟩
  · rw [hsame]
  · rw [ha, hb]
    rfl

theorem read_cases (h : SameButTexts t u) (workingDirectory : Location) (p : Path) :
    u.read workingDirectory p = t.read workingDirectory p ∨
      ∃ a b, t.read workingDirectory p = .ok a ∧ u.read workingDirectory p = .ok b ∧
        (String.fromUTF8? a).isSome ∧ (String.fromUTF8? b).isSome := by
  unfold read
  rcases h.stat_cases workingDirectory p with hsame | ⟨a, b, ha, hb, htexts⟩
  · rw [hsame]
    exact .inl rfl
  · rw [ha, hb]
    exact .inr ⟨a, b, rfl, rfl, htexts⟩

end SameButTexts

end FileTree

namespace World

variable {v w : World}

/-- The worlds are the same but for the texts of files and the log. -/
structure SameButTexts (v w : World) : Prop where
  workingDirectory : w.workingDirectory = v.workingDirectory
  tree : FileTree.SameButTexts v.tree w.tree

/-- What is read is the same, or there is a text to read in both worlds. -/
theorem SameButTexts.readText_cases (h : SameButTexts v w) (p : Path) :
    w.readText p = v.readText p ∨
      ∃ s s', v.readText p = .ok s ∧ w.readText p = .ok s' := by
  rw [readText_eq, readText_eq, h.workingDirectory]
  rcases h.tree.read_cases v.workingDirectory p with hsame | ⟨a, b, ha, hb, hatext, hbtext⟩
  · rw [hsame]
    exact .inl rfl
  · obtain ⟨s, hs⟩ := Option.isSome_iff_exists.mp hatext
    obtain ⟨s', hs'⟩ := Option.isSome_iff_exists.mp hbtext
    refine .inr ⟨s, s', ?_, ?_⟩
    · simp only [ha, hs]
    · simp only [hb, hs']

end World

/-! ## Resolvers -/

namespace Schema

/-- What a resolver may answer: a file that holds the definition, or the text of it. -/
inductive Definition where
  | file (location : Path)
  | text (contents : String)
  deriving DecidableEq, Repr

/-- The definition that a source stands for. -/
def DtdSource.definition : DtdSource → Definition
  | file location => .file location
  | bundled dtd => .text dtd.text

/-- A resolver by its answers, which are its own: it may know any document types, bundle any texts
and make use of the system identifier. -/
abbrev Resolver :=
  DoctypeIds → Option Definition

namespace Resolver

/-- What comes of an answer: a file has to be readable. -/
def lookUp (publicId : String) (w : World) :
    Option Definition → Except Failure (Option Definition)
  | some (.file location) =>
    ((w.readText location).mapError (.unreadableDtd publicId location)).map fun _ =>
      some (.file location)
  | answer => .ok answer

/-- What comes of the identifiers that a document has, if it has any. -/
def answerFor (resolve : Resolver) (w : World) :
    Option DoctypeIds → Except Failure (Option Definition)
  | some ids => lookUp ids.publicId w (resolve ids)
  | none => .ok none

/-- The definition that is found for a document below a root directory, or why reading fails. -/
def find (resolve : Resolver) (root : Path) (name : String) (w : World) :
    Except Failure (Option Definition) :=
  ((w.readText (root.join ⟨name⟩)).mapError (.file (root.join ⟨name⟩))).bind fun text =>
    resolve.answerFor w (identifiers? text.toList)

variable {v w : World} {root : Path} {name s s' : String}

theorem find_of_readText (resolve : Resolver) (hs : w.readText (root.join ⟨name⟩) = .ok s) :
    resolve.find root name w = resolve.answerFor w (identifiers? s.toList) := by
  unfold find
  rw [hs]
  rfl

theorem lookUp_file (publicId : String) (w : World) (location : Path) :
    lookUp publicId w (some (.file location)) =
      ((w.readText location).mapError (.unreadableDtd publicId location)).map fun _ =>
        some (.file location) :=
  rfl

theorem lookUp_eq (h : World.SameButTexts v w) (publicId : String) (answer : Option Definition) :
    lookUp publicId w answer = lookUp publicId v answer := by
  rcases answer with _ | location | contents
  · rfl
  · rw [lookUp_file, lookUp_file]
    rcases h.readText_cases location with hsame | ⟨t, t', ht, ht'⟩
    · rw [hsame]
    · rw [ht, ht']
      rfl
  · rfl

theorem answerFor_eq (resolve : Resolver) (h : World.SameButTexts v w)
    (ids? : Option DoctypeIds) : resolve.answerFor w ids? = resolve.answerFor v ids? := by
  cases ids? with
  | none => rfl
  | some ids => exact lookUp_eq h ids.publicId (resolve ids)

/-- The text of a document matters for its identifiers only. -/
theorem find_eq_of_identifiers? (resolve : Resolver) (h : World.SameButTexts v w)
    (hs : v.readText (root.join ⟨name⟩) = .ok s) (hs' : w.readText (root.join ⟨name⟩) = .ok s')
    (hids : identifiers? s'.toList = identifiers? s.toList) :
    resolve.find root name w = resolve.find root name v := by
  rw [resolve.find_of_readText hs, resolve.find_of_readText hs', hids, resolve.answerFor_eq h]

/-- What is found by a resolver that has the text of every definition. -/
theorem find_of_text {answer : DoctypeIds → String}
    (hs : v.readText (root.join ⟨name⟩) = .ok s) :
    find (fun ids => some (.text (answer ids))) root name v =
      .ok ((identifiers? s.toList).map fun ids => .text (answer ids)) := by
  rw [find_of_readText _ hs]
  cases identifiers? s.toList <;> rfl

end Resolver

namespace Reader

open Attempt

/-- The answers of a reader's own resolver, as things stand in the world. -/
def resolver (r : Reader) (w : World) : Resolver :=
  fun ids => (((source? r.lookup ids.publicId : Simulation (Option DtdSource)) w).1).map
    DtdSource.definition

/-- The definition that a reader finds for a document, or why reading fails. -/
def definitionIn (r : Reader) (name : String) (w : World) : Except Failure (Option Definition) :=
  ((r.read name).runIn w).1.map fun document => document.dtd?.map DtdSource.definition

variable {v w : World}

theorem resolver_eq (r : Reader) (h : World.SameButTexts v w) : r.resolver w = r.resolver v := by
  funext ids
  unfold resolver source?
  cases r.lookup with
  | off => rfl
  | bundled => cases KnownDtd.ofPublicId? ids.publicId <;> rfl
  | overriding directory =>
    cases KnownDtd.ofPublicId? ids.publicId with
    | none => rfl
    | some dtd =>
      have hholds := h.tree.holds_eq v.workingDirectory (directory.join dtd.overridePath)
      rw [← h.workingDirectory] at hholds
      show (some (if w.tree.holds w.workingDirectory (directory.join dtd.overridePath) then
          DtdSource.file (directory.join dtd.overridePath) else .bundled dtd)).map _ =
        (some (if v.tree.holds v.workingDirectory (directory.join dtd.overridePath) then
          DtdSource.file (directory.join dtd.overridePath) else .bundled dtd)).map _
      rw [hholds, h.workingDirectory]

theorem runIn_dtdLength_file (publicId : String) (location : Path) (w : World) :
    (dtdLength publicId (.file location) : Attempt Simulation Nat).runIn w =
      (((w.readText location).mapError (.unreadableDtd publicId location)).map (·.utf8ByteSize),
        w) := by
  unfold dtdLength runIn
  simp only [ExceptT.run, ExceptT.mk, bind, StateT.bind, run_readText]
  cases w.readText location <;> rfl

/-- A definition in a file has to be readable. -/
theorem resolveDtd_outcome (r : Reader) (name : String) (ids : DoctypeIds) (w : World) :
    ((r.resolveDtd name ids).runIn w).1 =
      match ((source? r.lookup ids.publicId : Simulation (Option DtdSource)) w).1 with
      | some (.file location) =>
        ((w.readText location).mapError (.unreadableDtd ids.publicId location)).map fun _ =>
          some (.file location)
      | answer => .ok answer := by
  unfold resolveDtd
  rw [runIn_bind, runIn_lift, looks_source?]
  rcases ((source? r.lookup ids.publicId : Simulation (Option DtdSource)) w).1 with
    _ | location | dtd
  · rfl
  · simp only [runIn_bind, runIn_dtdLength_file]
    cases w.readText location <;> rfl
  · rfl

/-- The definition is looked up by the answer of the reader's own resolver. -/
theorem runIn_resolveDtd (r : Reader) (name : String) (ids : DoctypeIds) (w : World) :
    ((r.resolveDtd name ids).runIn w).1.map (·.map DtdSource.definition) =
      (r.resolver w).answerFor w (some ids) := by
  have hanswer : (r.resolver w).answerFor w (some ids) = Resolver.lookUp ids.publicId w
      ((((source? r.lookup ids.publicId : Simulation (Option DtdSource)) w).1).map
        DtdSource.definition) := rfl
  rw [hanswer, resolveDtd_outcome]
  rcases ((source? r.lookup ids.publicId : Simulation (Option DtdSource)) w).1 with
    _ | location | dtd
  · rfl
  · simp only [Option.map_some, DtdSource.definition, Resolver.lookUp_file]
    cases w.readText location <;> rfl
  · rfl

/-- A reader finds what its resolver answers. -/
theorem definitionIn_eq_find (r : Reader) (name : String) (w : World) :
    r.definitionIn name w = (r.resolver w).find r.root name w := by
  unfold definitionIn read
  rw [runIn_bind, runIn_file_readText]
  cases htext : w.readText (r.locate name) with
  | error cause =>
    rw [Resolver.find, ← locate, htext]
    rfl
  | ok text =>
    rw [Resolver.find_of_readText _ htext]
    show Except.map _ (Attempt.runIn _ w).1 = _
    cases identifiers? text.toList with
    | none => rfl
    | some ids =>
      have hdocument : (((r.resolveDtd name ids).runIn w).1.map
          (fun dtd? => (⟨name, r.locate name, text, dtd?⟩ : Document))).map
            (fun document => document.dtd?.map DtdSource.definition) =
          ((r.resolveDtd name ids).runIn w).1.map (·.map DtdSource.definition) := by
        cases ((r.resolveDtd name ids).runIn w).1 <;> rfl
      simp only [runIn_bind_pure]
      rw [hdocument, runIn_resolveDtd]

end Reader

end Schema

end EntityScaffold
