import EntityScaffold.Proofs.Preparation

/-!
# The contents of a schema

What a run reads is decided by a few texts: the one at the path of the configuration document, and
the ones at the paths of the mapping documents that it lists. When reading succeeds, it gives what
these texts say (`prepare_eq_ok`). A document type definition that is read on the way has no part in
it, and neither has anything else that stands in the tree.

Directories that are created before do not change the text at any path (`textAt?_eq`), so the texts
can be looked up in the tree from which the run starts.
-/

namespace EntityScaffold

theorem Text.fromUTF8?_eq_some_iff {contents : ByteArray} {text : String} :
    String.fromUTF8? contents = some text ↔ contents = text.toUTF8 := by
  unfold String.fromUTF8?
  constructor
  · intro h
    split at h
    · cases h
      rfl
    · cases h
  · rintro rfl
    exact dif_pos text.isValidUTF8

namespace FileTree

/-- The text of the file that a path denotes, if there is a file and it is a text. -/
def textAt? (t : FileTree) (workingDirectory : Location) (p : Path) : Option String :=
  match t.find? (p.location workingDirectory) with
  | some (.file contents) => String.fromUTF8? contents
  | _ => none

variable {t u : FileTree} {workingDirectory : Location} {p : Path}

theorem textAt?_of_read {contents : ByteArray} (h : t.read workingDirectory p = .ok contents) :
    t.textAt? workingDirectory p = String.fromUTF8? contents := by
  obtain ⟨s, hslot, -, hnode⟩ := read_eq_ok_iff.mp h
  rw [location_of_slot hslot] at hnode
  rw [textAt?, hnode]

/-- New directories are no texts. -/
theorem AddsDirectories.textAt?_eq (h : AddsDirectories t u) (workingDirectory : Location)
    (p : Path) : u.textAt? workingDirectory p = t.textAt? workingDirectory p := by
  unfold textAt?
  rcases h (p.location workingDirectory) with hsame | ⟨hnone, hadded⟩
  · rw [hsame]
  · rw [hnone, hadded]

end FileTree

namespace World

/-- The text that a path leads to, or why there is none. -/
def readText (w : World) (p : Path) : Except FileCause String :=
  ((Attempt.readText p : Simulation (Except FileCause String)) w).1

variable {w : World} {p : Path}

theorem readText_eq (w : World) (p : Path) :
    w.readText p = match w.tree.read w.workingDirectory p with
      | .error cause => .error cause
      | .ok contents =>
        match String.fromUTF8? contents with
        | some text => .ok text
        | none => .error .notText := by
  have hread : (Host.read p : Simulation (Except FileCause ByteArray)) w =
      (w.tree.read w.workingDirectory p, w) := rfl
  unfold readText Attempt.readText
  simp only [bind, StateT.bind, hread]
  cases w.tree.read w.workingDirectory p with
  | error cause => rfl
  | ok contents =>
    simp only
    cases String.fromUTF8? contents <;> rfl

theorem readText_of_read {text : String}
    (h : w.tree.read w.workingDirectory p = .ok text.toUTF8) : w.readText p = .ok text := by
  have htext : String.fromUTF8? text.toUTF8 = some text := Text.fromUTF8?_eq_some_iff.mpr rfl
  rw [readText_eq, h]
  simp only [htext]

theorem textAt?_of_readText {text : String} (h : w.readText p = .ok text) :
    w.tree.textAt? w.workingDirectory p = some text := by
  rw [readText_eq] at h
  split at h
  · cases h
  · next contents hcontents =>
    rw [FileTree.textAt?_of_read hcontents]
    split at h
    · next found hfound => rw [hfound, Except.ok.inj h]
    · cases h

end World

namespace Attempt

variable {α β : Type} {w v : World}

theorem run_readText (path : Path) (w : World) :
    (readText path : Simulation (Except FileCause String)) w = (w.readText path, w) :=
  Prod.ext rfl (looks_readText path w)

theorem runIn_file_readText (path : Path) (w : World) :
    (file path (readText path) : Attempt Simulation String).runIn w =
      ((w.readText path).mapError (.file path), w) := by
  rw [runIn_file, run_readText]

theorem textAt?_of_readText {path : Path} {text : String}
    (h : (file path (readText path) : Attempt Simulation String).runIn w = (.ok text, v)) :
    w.tree.textAt? w.workingDirectory path = some text := by
  rw [runIn_file_readText] at h
  cases htext : w.readText path with
  | error cause =>
    rw [htext] at h
    cases h
  | ok found =>
    rw [htext] at h
    cases h
    exact World.textAt?_of_readText htext

/-- Attempts that leave the tree alone and give what it says, one after the other. -/
theorem mapM_eq_ok {f : α → Attempt Simulation β} (meaning : FileTree → Location → α → Option β)
    (hkeeps : ∀ a, Keeps Eq (f a))
    (hmeans : ∀ a w b v, (f a).runIn w = (.ok b, v) → meaning w.tree w.workingDirectory a = some b)
    {as : List α} {bs : List β} (h : (as.mapM f).runIn w = (.ok bs, v)) :
    as.map (meaning w.tree w.workingDirectory) = bs.map some := by
  induction as generalizing bs w with
  | nil =>
    cases h
    rfl
  | cons a as ih =>
    rw [List.mapM_cons] at h
    obtain ⟨b, u, hfirst, hrest⟩ := runIn_bind_eq_ok h
    obtain ⟨cs, u', hothers, hend⟩ := runIn_bind_eq_ok hrest
    cases hend
    obtain ⟨hdirectory, htree⟩ := (hkeeps a).related hfirst
    have hmore := ih hothers
    rw [hdirectory, ← htree] at hmore
    rw [List.map_cons, List.map_cons, hmeans a w b u hfirst, hmore]

end Attempt

/-! ## Documents -/

namespace Schema.Reader

open Attempt
open Mapping (Configuration Resource)

/-- What the text at the path of a document says when it is read as `interpret` does. -/
def documentIn? {α : Type} (r : Reader) (interpret : Document → Except Failure α) (t : FileTree)
    (workingDirectory : Location) (name : String) : Option α :=
  (t.textAt? workingDirectory (r.locate name)).bind fun text =>
    (interpret ⟨name, r.locate name, text, none⟩).toOption

/-- The configuration that a tree holds under the name of a document. -/
def configurationIn? (r : Reader) (parse : Xml.Parser) :
    FileTree → Location → String → Option Configuration :=
  r.documentIn? fun d => d.configuration parse

/-- The mapping document that a tree holds under a name. -/
def resourceIn? (r : Reader) (parse : Xml.Parser) :
    FileTree → Location → String → Option Resource :=
  r.documentIn? fun d => (d.resource parse).2

theorem documentIn?_congr {α : Type} {r : Reader} {interpret : Document → Except Failure α}
    {t u : FileTree} {workingDirectory : Location} {name : String}
    (h : u.textAt? workingDirectory (r.locate name) =
      t.textAt? workingDirectory (r.locate name)) :
    r.documentIn? interpret u workingDirectory name =
      r.documentIn? interpret t workingDirectory name := by
  rw [documentIn?, documentIn?, h]

variable {r : Reader} {parse : Xml.Parser} {name : String} {w v : World}

theorem read_eq_ok {d : Document} (h : (r.read name).runIn w = (.ok d, v)) :
    ∃ text dtd?, w.tree.textAt? w.workingDirectory (r.locate name) = some text ∧
      d = ⟨name, r.locate name, text, dtd?⟩ := by
  unfold read at h
  obtain ⟨text, u, htext, hrest⟩ := runIn_bind_eq_ok h
  have hfound := textAt?_of_readText htext
  split at hrest
  · cases hrest
    exact ⟨text, none, hfound, rfl⟩
  · obtain ⟨dtd?, u', -, hend⟩ := runIn_bind_eq_ok hrest
    cases hend
    exact ⟨text, dtd?, hfound, rfl⟩

theorem configuration_eq_ok {c : Configuration}
    (h : (r.configuration parse name).runIn w = (.ok c, v)) :
    r.configurationIn? parse w.tree w.workingDirectory name = some c := by
  unfold configuration at h
  obtain ⟨d, u, hread, hrest⟩ := runIn_bind_eq_ok h
  obtain ⟨text, dtd?, htext, rfl⟩ := read_eq_ok hread
  have houtcome : (Document.configuration parse ⟨name, r.locate name, text, dtd?⟩, u) =
      (.ok c, v) := hrest
  -- the definition of the document type is not looked at
  have hsame : Document.configuration parse ⟨name, r.locate name, text, none⟩ = .ok c :=
    congrArg Prod.fst houtcome
  rw [configurationIn?, documentIn?, htext, Option.bind_some, hsame]
  rfl

theorem resource_eq_ok {resource : Resource}
    (h : (r.resource parse name).runIn w = (.ok resource, v)) :
    r.resourceIn? parse w.tree w.workingDirectory name = some resource := by
  unfold Reader.resource at h
  obtain ⟨d, u, hread, hrest⟩ := runIn_bind_eq_ok h
  obtain ⟨text, dtd?, htext, rfl⟩ := read_eq_ok hread
  obtain ⟨-, u', -, hend⟩ := runIn_bind_eq_ok hrest
  have houtcome : ((Document.resource parse ⟨name, r.locate name, text, dtd?⟩).2, u') =
      (.ok resource, v) := hend
  have hsame : (Document.resource parse ⟨name, r.locate name, text, none⟩).2 = .ok resource :=
    congrArg Prod.fst houtcome
  rw [resourceIn?, documentIn?, htext, Option.bind_some, hsame]
  rfl

end Schema.Reader

/-! ## The whole schema -/

namespace Conversion

open Attempt FileTree
open Mapping (Configuration Resource)
open Schema (Reader)

/-- The reader of the schema that the settings name. -/
def schemaReader (s : Settings) : Reader :=
  .ofRoot s.resourceDirectory

/-- What the schema in a tree says: the configuration and the mapping documents that it lists. -/
structure HoldsSchema (parse : Xml.Parser) (s : Settings) (workingDirectory : Location)
    (t : FileTree) (c : Configuration) (rs : List Resource) : Prop where
  configuration :
    (schemaReader s).configurationIn? parse t workingDirectory s.configName = some c
  resources : c.resources.map ((schemaReader s).resourceIn? parse t workingDirectory) = rs.map some

variable {parse : Xml.Parser} {s : Settings} {w v : World}

theorem readSchema_eq_ok {rs : List Resource} (h : (readSchema parse s).runIn w = (.ok rs, v)) :
    ∃ c, HoldsSchema parse s w.workingDirectory w.tree c rs := by
  obtain ⟨_, u, hlog, hrest⟩ := runIn_bind_eq_ok h
  obtain ⟨c, u', hconfiguration, hresources⟩ := runIn_bind_eq_ok hrest
  obtain ⟨hu, htree⟩ := (keeps_log (R := Eq) _).related hlog
  obtain ⟨hu', htree'⟩ := (Reader.keeps_configuration (R := Eq) _ _).related hconfiguration
  have hlisted := Reader.configuration_eq_ok hconfiguration
  have hmapped := mapM_eq_ok ((schemaReader s).resourceIn? parse)
    (fun name => (keeps_log (R := Eq) _).bind fun _ => Reader.keeps_resource _ name)
    (fun name w resource v hrun => ?_) hresources
  · rw [hu, ← htree] at hlisted
    rw [hu', hu, ← htree', ← htree] at hmapped
    exact ⟨c, hlisted, hmapped⟩
  · obtain ⟨_, v', hline, hread⟩ := runIn_bind_eq_ok hrun
    obtain ⟨hv, htree⟩ := (keeps_log (R := Eq) _).related hline
    have hmeans := Reader.resource_eq_ok hread
    rw [hv, ← htree] at hmeans
    exact hmeans

/-- The schema was there before the directories that are new. -/
theorem HoldsSchema.of_addsDirectories {t u : FileTree} {workingDirectory : Location}
    {c : Configuration} {rs : List Resource} (h : HoldsSchema parse s workingDirectory u c rs)
    (hadds : AddsDirectories t u) : HoldsSchema parse s workingDirectory t c rs := by
  have hsame {α : Type} (interpret : Schema.Document → Except Failure α) (name : String) :
      (schemaReader s).documentIn? interpret u workingDirectory name =
        (schemaReader s).documentIn? interpret t workingDirectory name :=
    Reader.documentIn?_congr (hadds.textAt?_eq workingDirectory _)
  refine ⟨(hsame _ _).symm.trans h.configuration, ?_⟩
  rw [← h.resources]
  exact List.map_congr_left fun name _ => (hsame _ name).symm

theorem createOutput_eq_ok {output : Path} (h : (createOutput s).runIn w = (.ok output, v)) :
    output = s.outputDirectory w.workingPath := by
  rw [runIn_createOutput] at h
  have houtcome := congrArg Prod.fst h
  revert houtcome
  rcases (w.tree.createDirectories w.workingDirectory (s.outputDirectory w.workingPath)).1
    with cause | _
  · exact nofun
  · exact fun houtcome => (Except.ok.inj houtcome).symm

theorem resolve_eq_ok {rs : List Resource} {hierarchy : Hierarchy}
    (h : (resolve rs : Attempt Simulation Hierarchy).runIn w = (.ok hierarchy, v)) :
    Hierarchy.ofResources rs = .ok hierarchy := by
  obtain ⟨found, u, hfound, hrest⟩ := runIn_bind_eq_ok h
  obtain ⟨_, u', -, hrest⟩ := runIn_bind_eq_ok hrest
  obtain ⟨_, u'', -, hend⟩ := runIn_bind_eq_ok hrest
  cases hend
  exact congrArg Prod.fst hfound

/-- What a run has when it comes to the first artifact: the mapping documents that the schema in
its tree lists, their hierarchy, and the output directory and the header of the settings. -/
theorem prepare_eq_ok {g : Generator} {rs : List Resource}
    (h : (prepare parse s).runIn w = (.ok (g, rs), v)) :
    (∃ c, HoldsSchema parse s w.workingDirectory w.tree c rs) ∧
      Hierarchy.ofResources rs = .ok g.hierarchy ∧
      g.output = s.outputDirectory w.workingPath ∧ g.header? = s.header? := by
  obtain ⟨_, w₁, hfirst, hrest⟩ := runIn_bind_eq_ok h
  obtain ⟨output, w₂, hcreate, hrest⟩ := runIn_bind_eq_ok hrest
  obtain ⟨_, w₃, hline, hrest⟩ := runIn_bind_eq_ok hrest
  obtain ⟨rs', w₄, hread, hrest⟩ := runIn_bind_eq_ok hrest
  obtain ⟨hierarchy, w₅, hresolve, hend⟩ := runIn_bind_eq_ok hrest
  cases hend
  obtain ⟨hd₁, ht₁⟩ := (keeps_log (R := Eq) _).related hfirst
  obtain ⟨hd₂, hadds⟩ := (keepsFrom_createOutput s w).related hd₁ hcreate
  obtain ⟨hd₃, ht₃⟩ := (keeps_log (R := Eq) _).related hline
  obtain ⟨c, hschema⟩ := readSchema_eq_ok hread
  have houtput := createOutput_eq_ok hcreate
  rw [hd₃, hd₂, hd₁, ← ht₃] at hschema
  rw [← ht₁] at hadds
  rw [World.workingPath_congr hd₁] at houtput
  exact ⟨⟨c, hschema.of_addsDirectories hadds.addsDirectories⟩, resolve_eq_ok hresolve, houtput,
    rfl⟩

end Conversion

end EntityScaffold
