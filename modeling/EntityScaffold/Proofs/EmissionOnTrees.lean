import EntityScaffold.Emission
import EntityScaffold.Proofs.SimulationRuns
import EntityScaffold.Proofs.TreeGrowth

/-!
# Emission on trees

Emission of an artifact as a function of trees (`FileTree.emit`). A run on a world does just that,
apart from the log (`Artifact.runIn_emit`).

An emission that fails has only added directories. One that succeeds leaves its artifact settled
(`Settled`): the directory is there, and so is the file, with the emitted contents if it belongs to
the generator. An artifact stays settled however the tree grows, and emitting it again cannot fail.
-/

namespace EntityScaffold

/-- Whether a file of the developer was left alone. -/
def Outcome.isPreserved : Outcome → Bool
  | .preserved => true
  | .written | .unchanged => false

namespace Artifact

/-- The bytes of the file. -/
def bytes (a : Artifact) : ByteArray :=
  a.contents.toUTF8

/-- The location of the file, when artifacts are emitted below `output`. -/
def location (workingDirectory : Location) (output : Path) (a : Artifact) : Location :=
  (a.pathBelow output).location workingDirectory

/-- The artifact belongs to the generator, and its file is at the given location. -/
def Owns (workingDirectory : Location) (output : Path) (a : Artifact) (place : Location) : Prop :=
  a.kind.policy = .overwrite ∧ a.location workingDirectory output = place

instance (workingDirectory : Location) (output : Path) (a : Artifact) (place : Location) :
    Decidable (a.Owns workingDirectory output place) :=
  inferInstanceAs (Decidable (_ ∧ _))

end Artifact

namespace FileTree

variable {t u : FileTree} {workingDirectory : Location} {output path : Path} {a : Artifact}
  {contents : ByteArray} {outcome : Outcome} {failure : Failure}

/-!
## One artifact

What `Artifact.emit` and its parts do, each as a function of the tree.
-/

def createParent (t : FileTree) (workingDirectory : Location) (path : Path) :
    Except Failure Unit × FileTree :=
  match path.parent? with
  | some directory =>
    ((t.createDirectories workingDirectory directory).1.mapError (.file directory),
      (t.createDirectories workingDirectory directory).2)
  | none => (.ok (), t)

def replace (t : FileTree) (workingDirectory : Location) (path : Path) (contents : ByteArray) :
    Except Failure Outcome × FileTree :=
  match t.write workingDirectory path contents with
  | .ok u => (.ok .written, u)
  | .error cause => (.error (.file path cause), t)

def overwrite (t : FileTree) (workingDirectory : Location) (path : Path) (contents : ByteArray) :
    Except Failure Outcome × FileTree :=
  match t.read workingDirectory path with
  | .ok present =>
    if present = contents then (.ok .unchanged, t) else t.replace workingDirectory path contents
  | .error .notFound => t.replace workingDirectory path contents
  | .error cause => (.error (.file path cause), t)

def createOnce (t : FileTree) (workingDirectory : Location) (path : Path) (contents : ByteArray) :
    Except Failure Outcome × FileTree :=
  match t.create workingDirectory path contents with
  | .ok u => (.ok .written, u)
  | .error .alreadyExists => (.ok .preserved, t)
  | .error cause => (.error (.file path cause), t)

def putFile (t : FileTree) (workingDirectory : Location) (path : Path) (contents : ByteArray) :
    WritePolicy → Except Failure Outcome × FileTree
  | .overwrite => t.overwrite workingDirectory path contents
  | .createOnly => t.createOnce workingDirectory path contents

def emit (t : FileTree) (workingDirectory : Location) (output : Path) (a : Artifact) :
    Except Failure Outcome × FileTree :=
  match t.createParent workingDirectory (a.pathBelow output) with
  | (.ok (), u) => u.putFile workingDirectory (a.pathBelow output) a.bytes a.kind.policy
  | (.error failure, u) => (.error failure, u)

end FileTree

/-! ## Runs on a world -/

namespace Artifact

open Attempt

theorem runIn_createParent (path : Path) (w : World) :
    (createParent path : Attempt Simulation Unit).runIn w =
      ((w.tree.createParent w.workingDirectory path).1,
        { w with tree := (w.tree.createParent w.workingDirectory path).2 }) := by
  unfold createParent FileTree.createParent
  cases path.parent? with
  | none => rfl
  | some directory => exact runIn_file directory _ w

theorem runIn_replace (path : Path) (contents : ByteArray) (w : World) :
    (replace path contents : Attempt Simulation Outcome).runIn w =
      ((w.tree.replace w.workingDirectory path contents).1,
        { w with tree := (w.tree.replace w.workingDirectory path contents).2 }) := by
  unfold replace FileTree.replace
  rw [runIn_bind, runIn_file]
  have hwrite : (Host.write path contents : Simulation (Except FileCause Unit)) w =
      w.commit (w.tree.write w.workingDirectory path contents) := rfl
  rw [hwrite]
  cases w.tree.write w.workingDirectory path contents <;> rfl

theorem runIn_overwrite (path : Path) (contents : ByteArray) (w : World) :
    (overwrite path contents : Attempt Simulation Outcome).runIn w =
      ((w.tree.overwrite w.workingDirectory path contents).1,
        { w with tree := (w.tree.overwrite w.workingDirectory path contents).2 }) := by
  unfold overwrite FileTree.overwrite
  rw [runIn_bind, runIn_lift]
  have hread : (Host.read path : Simulation (Except FileCause ByteArray)) w =
      (w.tree.read w.workingDirectory path, w) := rfl
  rw [hread]
  cases w.tree.read w.workingDirectory path with
  | ok present =>
    by_cases hsame : present = contents
    · simp only [if_pos hsame]
      rfl
    · simp only [if_neg hsame]
      exact runIn_replace path contents w
  | error cause =>
    cases cause with
    | notFound => exact runIn_replace path contents w
    | _ => rfl

theorem runIn_createOnce (path : Path) (contents : ByteArray) (w : World) :
    (createOnce path contents : Attempt Simulation Outcome).runIn w =
      ((w.tree.createOnce w.workingDirectory path contents).1,
        { w with tree := (w.tree.createOnce w.workingDirectory path contents).2 }) := by
  unfold createOnce FileTree.createOnce
  rw [runIn_bind, runIn_lift]
  have hcreate : (Host.create path contents : Simulation (Except FileCause Unit)) w =
      w.commit (w.tree.create w.workingDirectory path contents) := rfl
  rw [hcreate]
  cases w.tree.create w.workingDirectory path contents with
  | ok u => rfl
  | error cause => cases cause <;> rfl

theorem runIn_put (policy : WritePolicy) (path : Path) (contents : ByteArray) (w : World) :
    (put policy path contents : Attempt Simulation Outcome).runIn w =
      ((w.tree.putFile w.workingDirectory path contents policy).1,
        { w with tree := (w.tree.putFile w.workingDirectory path contents policy).2 }) := by
  cases policy with
  | overwrite => exact runIn_overwrite path contents w
  | createOnly => exact runIn_createOnce path contents w

/-- An emission on a world is one on its tree. -/
theorem runIn_emit (output : Path) (a : Artifact) (w : World) :
    ∃ log, (a.emit output : Attempt Simulation Outcome).runIn w =
      ((w.tree.emit w.workingDirectory output a).1,
        ⟨(w.tree.emit w.workingDirectory output a).2, w.workingDirectory, log⟩) := by
  unfold emit FileTree.emit
  rw [runIn_bind, runIn_createParent]
  rcases hparent : w.tree.createParent w.workingDirectory (a.pathBelow output) with ⟨failure | -, u⟩
  · exact ⟨w.log, rfl⟩
  simp only
  rw [runIn_bind, runIn_put]
  simp only [bytes]
  rcases hput : u.putFile w.workingDirectory (a.pathBelow output) a.contents.toUTF8 a.kind.policy
    with ⟨failure | outcome, v⟩
  · exact ⟨w.log, rfl⟩
  · exact ⟨w.log ++ [report (a.pathBelow output) outcome], rfl⟩

end Artifact

namespace FileTree

variable {t u : FileTree} {workingDirectory : Location} {output path : Path} {a : Artifact}
  {contents : ByteArray} {outcome : Outcome} {failure : Failure}

/-! ## The directory of a file -/

/-- The place of the directory in which a file is to stand, or of one further out that its path
passes. -/
def LeadsThrough (workingDirectory : Location) (path : Path) (place : Location) : Prop :=
  ∃ directory, path.parent? = some directory ∧
    ∃ p ∈ directory.ancestors, p.location workingDirectory = place

/-- The directory in which a file is to stand is there. -/
def ParentReady (workingDirectory : Location) (path : Path) (t : FileTree) : Prop :=
  ∀ directory, path.parent? = some directory →
    directory.text.isEmpty = true ∨ t.holdsDirectory workingDirectory directory = true

theorem ParentReady.mono (h : t.ParentReady workingDirectory path) (hkeeps : KeepsDirectories t u) :
    u.ParentReady workingDirectory path := by
  intro directory hdirectory
  exact (h directory hdirectory).imp_right hkeeps.holdsDirectory

theorem addsDirectoriesAt_createParent (t : FileTree) (workingDirectory : Location) (path : Path) :
    AddsDirectoriesAt (LeadsThrough workingDirectory path) t
      (t.createParent workingDirectory path).2 := by
  unfold createParent
  split
  · next directory hparent =>
    exact (t.addsDirectoriesAt_createDirectories workingDirectory directory).mono
      fun _ hplace => ⟨directory, hparent, hplace⟩
  · exact .refl _ t

theorem parentReady_of_createParent (h : t.createParent workingDirectory path = (.ok (), u)) :
    u.ParentReady workingDirectory path := by
  intro directory hdirectory
  simp only [createParent, hdirectory] at h
  rcases hcreate : t.createDirectories workingDirectory directory with ⟨cause | _, v⟩
  · rw [hcreate] at h
    cases h
  · rw [hcreate] at h
    cases h
    exact holdsDirectory_of_createDirectories hcreate

theorem createParent_of_parentReady (h : t.ParentReady workingDirectory path) :
    t.createParent workingDirectory path = (.ok (), t) := by
  unfold createParent
  cases hparent : path.parent? with
  | none => rfl
  | some directory =>
    simp only
    rw [createDirectories_of_holdsDirectory (h directory hparent)]
    rfl

/-! ## Puts -/

theorem replace_eq_ok (h : t.replace workingDirectory path contents = (.ok outcome, u)) :
    outcome = .written ∧ t.write workingDirectory path contents = .ok u := by
  unfold replace at h
  split at h
  · next v hwrite =>
    cases h
    exact ⟨rfl, hwrite⟩
  · cases h

theorem replace_eq_error (h : t.replace workingDirectory path contents = (.error failure, u)) :
    u = t := by
  unfold replace at h
  split at h
  · cases h
  · cases h
    rfl

theorem read_of_write (h : t.write workingDirectory path contents = .ok u) :
    u.read workingDirectory path = .ok contents := by
  obtain ⟨s, hslot, hslash, -, -⟩ := write_eq_ok_iff.mp h
  have hslot' := (retains_write h).keepsDirectories.slot hslot
  refine read_eq_ok_iff.mpr ⟨s, hslot', hslash, ?_⟩
  rw [find?_write h, if_pos (location_of_slot hslot)]

/-- An overwrite that succeeds found the contents already or has written them. -/
theorem overwrite_eq_ok (h : t.overwrite workingDirectory path contents = (.ok outcome, u)) :
    (outcome = .unchanged ∧ u = t ∧ t.read workingDirectory path = .ok contents) ∨
      (outcome = .written ∧ t.write workingDirectory path contents = .ok u) := by
  unfold overwrite at h
  split at h
  · next present hread =>
    split at h
    · next hsame =>
      cases h
      exact .inl ⟨rfl, rfl, hsame ▸ hread⟩
    · exact .inr (replace_eq_ok h)
  · exact .inr (replace_eq_ok h)
  · cases h

theorem overwrite_eq_error (h : t.overwrite workingDirectory path contents = (.error failure, u)) :
    u = t := by
  unfold overwrite at h
  split at h
  · split at h
    · cases h
    · exact replace_eq_error h
  · exact replace_eq_error h
  · cases h
    rfl

/-- A file of the generator has the contents that were put there, and all else is as it was. -/
theorem overwrite_spec (h : t.overwrite workingDirectory path contents = (.ok outcome, u)) :
    u.read workingDirectory path = .ok contents ∧
      t.find? (path.location workingDirectory) ≠ some .directory ∧
      ∀ place, u.find? place =
        if place = path.location workingDirectory then some (.file contents)
        else t.find? place := by
  rcases overwrite_eq_ok h with ⟨-, rfl, hread⟩ | ⟨-, hwrite⟩
  · obtain ⟨s, hslot, -, hnode⟩ := read_eq_ok_iff.mp hread
    rw [location_of_slot hslot] at hnode
    refine ⟨hread, by rw [hnode]; exact nofun, fun place => ?_⟩
    by_cases hplace : place = path.location workingDirectory
    · rw [if_pos hplace, hplace, hnode]
    · rw [if_neg hplace]
  · obtain ⟨s, hslot, -, hnode, -⟩ := write_eq_ok_iff.mp hwrite
    rw [location_of_slot hslot] at hnode
    exact ⟨read_of_write hwrite, hnode, find?_write hwrite⟩

/-- A creation that succeeds has written the file or found something in its place. -/
theorem createOnce_eq_ok (h : t.createOnce workingDirectory path contents = (.ok outcome, u)) :
    (outcome = .written ∧ t.create workingDirectory path contents = .ok u) ∨
      (outcome = .preserved ∧ u = t ∧
        t.create workingDirectory path contents = .error .alreadyExists) := by
  unfold createOnce at h
  split at h
  · next v hcreate =>
    cases h
    exact .inl ⟨rfl, hcreate⟩
  · next hcreate =>
    cases h
    exact .inr ⟨rfl, rfl, hcreate⟩
  · cases h

theorem createOnce_eq_error
    (h : t.createOnce workingDirectory path contents = (.error failure, u)) : u = t := by
  unfold createOnce at h
  split at h
  · cases h
  · cases h
  · cases h
    rfl

/-- Something stands in the place of a file of the developer, and all else is as it was. -/
theorem createOnce_spec (h : t.createOnce workingDirectory path contents = (.ok outcome, u)) :
    u.create workingDirectory path contents = .error .alreadyExists ∧
      Retains (fun _ => False) t u := by
  rcases createOnce_eq_ok h with ⟨-, hcreate⟩ | ⟨-, rfl, hexists⟩
  · have hretains := retains_create hcreate fun _ => False
    obtain ⟨s, hslot, hslash, -, -⟩ := create_eq_ok_iff.mp hcreate
    refine ⟨create_eq_alreadyExists_iff.mpr ⟨s, ?_, hslash, ?_⟩, hretains⟩
    · exact hretains.keepsDirectories.slot hslot
    · rw [find?_create hcreate, if_pos (location_of_slot hslot)]
      rfl
  · exact ⟨hexists, .refl _ u⟩

/-- A put that fails changes nothing. -/
theorem putFile_eq_error {policy : WritePolicy}
    (h : t.putFile workingDirectory path contents policy = (.error failure, u)) : u = t := by
  cases policy with
  | overwrite => exact overwrite_eq_error h
  | createOnly => exact createOnce_eq_error h

theorem retains_putFile (t : FileTree) (workingDirectory : Location) (path : Path)
    (contents : ByteArray) (policy : WritePolicy) :
    Retains (fun place => policy = .overwrite ∧ path.location workingDirectory = place) t
      (t.putFile workingDirectory path contents policy).2 := by
  rcases hput : t.putFile workingDirectory path contents policy with ⟨failure | outcome, u⟩
  · rw [putFile_eq_error hput]
    exact .refl _ t
  cases policy with
  | createOnly => exact (createOnce_spec hput).2.mono fun _ => False.elim
  | overwrite =>
    obtain ⟨-, hnode, hu⟩ := overwrite_spec hput
    exact (retains_of_find?_eq hnode hu).mono fun place hplace => ⟨rfl, hplace.symm⟩

/-- A put fails with a failure to read or write the file. -/
theorem putFile_failure {policy : WritePolicy}
    (h : t.putFile workingDirectory path contents policy = (.error failure, u)) :
    ∃ cause, failure = .file path cause := by
  have hreplace (h : t.replace workingDirectory path contents = (.error failure, u)) :
      ∃ cause, failure = .file path cause := by
    unfold replace at h
    split at h
    · cases h
    · next cause _ =>
      cases h
      exact ⟨cause, rfl⟩
  cases policy with
  | overwrite =>
    change t.overwrite workingDirectory path contents = (.error failure, u) at h
    unfold overwrite at h
    split at h
    · split at h
      · cases h
      · exact hreplace h
    · exact hreplace h
    · next cause _ _ =>
      cases h
      exact ⟨cause, rfl⟩
  | createOnly =>
    change t.createOnce workingDirectory path contents = (.error failure, u) at h
    unfold createOnce at h
    split at h
    · cases h
    · cases h
    · next cause _ _ =>
      cases h
      exact ⟨cause, rfl⟩

theorem createParent_failure (h : t.createParent workingDirectory path = (.error failure, u)) :
    ∃ directory cause, path.parent? = some directory ∧ failure = .file directory cause := by
  unfold createParent at h
  split at h
  · next directory hparent =>
    rcases hcreate : t.createDirectories workingDirectory directory with ⟨cause | _, v⟩
    · rw [hcreate] at h
      cases h
      exact ⟨directory, cause, hparent, rfl⟩
    · rw [hcreate] at h
      cases h
  · cases h

/-! ## One emission -/

/-- An emission that succeeds has put the file into a tree that has the directory for it. -/
theorem emit_eq_ok (h : t.emit workingDirectory output a = (.ok outcome, u)) :
    ∃ ready, AddsDirectoriesAt (LeadsThrough workingDirectory (a.pathBelow output)) t ready ∧
      ready.ParentReady workingDirectory (a.pathBelow output) ∧
      ready.putFile workingDirectory (a.pathBelow output) a.bytes a.kind.policy =
        (.ok outcome, u) := by
  unfold emit at h
  rcases hparent : t.createParent workingDirectory (a.pathBelow output) with ⟨cause | _, ready⟩
  · rw [hparent] at h
    cases h
  · rw [hparent] at h
    have hadds := t.addsDirectoriesAt_createParent workingDirectory (a.pathBelow output)
    rw [hparent] at hadds
    exact ⟨ready, hadds, parentReady_of_createParent hparent, h⟩

/-- An emission that fails has only added directories, on the way to the file. -/
theorem emit_eq_error (h : t.emit workingDirectory output a = (.error failure, u)) :
    AddsDirectoriesAt (LeadsThrough workingDirectory (a.pathBelow output)) t u := by
  have hadds := t.addsDirectoriesAt_createParent workingDirectory (a.pathBelow output)
  unfold emit at h
  rcases hparent : t.createParent workingDirectory (a.pathBelow output) with ⟨cause | _, ready⟩
  · rw [hparent] at h hadds
    cases h
    exact hadds
  · rw [hparent] at h hadds
    rw [putFile_eq_error h]
    exact hadds

/-- An emission fails at the file or at the directory for it, and in no other way. -/
theorem emit_failure (h : t.emit workingDirectory output a = (.error failure, u)) :
    ∃ path cause, failure = .file path cause ∧
      (path = a.pathBelow output ∨ (a.pathBelow output).parent? = some path) := by
  unfold emit at h
  rcases hparent : t.createParent workingDirectory (a.pathBelow output) with ⟨cause | _, ready⟩
  · obtain ⟨directory, cause, hdirectory, hfailure⟩ := createParent_failure hparent
    rw [hparent] at h
    cases h
    exact ⟨directory, cause, hfailure, .inr hdirectory⟩
  · rw [hparent] at h
    obtain ⟨cause, hfailure⟩ := putFile_failure h
    exact ⟨_, cause, hfailure, .inl rfl⟩

/-- Only a file of the generator gets other contents by an emission, and only the emitted one. -/
theorem retains_emit (t : FileTree) (workingDirectory : Location) (output : Path)
    (a : Artifact) :
    Retains (a.Owns workingDirectory output) t (t.emit workingDirectory output a).2 := by
  rcases hemit : t.emit workingDirectory output a with ⟨failure | outcome, u⟩
  · exact (emit_eq_error hemit).addsDirectories.retains _
  · obtain ⟨ready, hadds, -, hput⟩ := emit_eq_ok hemit
    have hfile := ready.retains_putFile workingDirectory (a.pathBelow output) a.bytes
      a.kind.policy
    rw [hput] at hfile
    exact (hadds.addsDirectories.retains _).trans hfile

/-- An emitted file of the generator has the emitted contents. -/
theorem find?_emit_of_owns (h : t.emit workingDirectory output a = (.ok outcome, u))
    {place : Location} (howns : a.Owns workingDirectory output place) :
    u.find? place = some (.file a.bytes) := by
  obtain ⟨hpolicy, rfl⟩ := howns
  obtain ⟨ready, -, -, hput⟩ := emit_eq_ok h
  rw [hpolicy] at hput
  rw [(overwrite_spec hput).2.2]
  exact if_pos rfl

/-! ## Settled artifacts -/

/-- The artifact was emitted at some time: its directory is there, and so is its file. -/
structure Settled (workingDirectory : Location) (output : Path) (t : FileTree) (a : Artifact) :
    Prop where
  parent : t.ParentReady workingDirectory (a.pathBelow output)
  owned : a.kind.policy = .overwrite →
    ∃ contents, t.read workingDirectory (a.pathBelow output) = .ok contents
  created : a.kind.policy = .createOnly →
    t.create workingDirectory (a.pathBelow output) a.bytes = .error .alreadyExists

theorem settled_of_emit (h : t.emit workingDirectory output a = (.ok outcome, u)) :
    Settled workingDirectory output u a := by
  obtain ⟨ready, -, hparent, hput⟩ := emit_eq_ok h
  have hretains := ready.retains_putFile workingDirectory (a.pathBelow output) a.bytes
    a.kind.policy
  rw [hput] at hretains
  refine ⟨hparent.mono hretains.keepsDirectories, fun hpolicy => ?_, fun hpolicy => ?_⟩
  · rw [hpolicy] at hput
    exact ⟨a.bytes, (overwrite_spec hput).1⟩
  · rw [hpolicy] at hput
    exact (createOnce_spec hput).1

/-- A settled artifact stays settled while the tree grows. -/
theorem Settled.mono {free : Location → Prop} (h : Settled workingDirectory output t a)
    (hretains : Retains free t u) : Settled workingDirectory output u a where
  parent := h.parent.mono hretains.keepsDirectories
  owned := by
    intro hpolicy
    obtain ⟨contents, hread⟩ := h.owned hpolicy
    obtain ⟨s, hslot, hslash, hnode⟩ := read_eq_ok_iff.mp hread
    obtain ⟨contents', hnode', -⟩ := hretains.file _ _ hnode
    exact ⟨contents',
      read_eq_ok_iff.mpr ⟨s, hretains.keepsDirectories.slot hslot, hslash, hnode'⟩⟩
  created := by
    intro hpolicy
    obtain ⟨s, hslot, hslash, hsome⟩ := create_eq_alreadyExists_iff.mp (h.created hpolicy)
    exact create_eq_alreadyExists_iff.mpr
      ⟨s, hretains.keepsDirectories.slot hslot, hslash, hretains.isSome hsome⟩

theorem Settled.emit_eq (h : Settled workingDirectory output t a) :
    t.emit workingDirectory output a =
      t.putFile workingDirectory (a.pathBelow output) a.bytes a.kind.policy := by
  unfold emit
  rw [createParent_of_parentReady h.parent]

/-- A settled file of the developer is preserved. -/
theorem Settled.emit_createOnly (h : Settled workingDirectory output t a)
    (hpolicy : a.kind.policy = .createOnly) :
    t.emit workingDirectory output a = (.ok .preserved, t) := by
  rw [h.emit_eq, hpolicy, putFile, createOnce, h.created hpolicy]

/-- A settled file of the generator is left alone if it has the right contents. -/
theorem Settled.emit_unchanged (h : Settled workingDirectory output t a)
    (hpolicy : a.kind.policy = .overwrite)
    (hnode : t.find? (a.location workingDirectory output) = some (.file a.bytes)) :
    t.emit workingDirectory output a = (.ok .unchanged, t) := by
  obtain ⟨contents, hread⟩ := h.owned hpolicy
  obtain ⟨s, hslot, -, hfile⟩ := read_eq_ok_iff.mp hread
  have hcontents : contents = a.bytes := by
    rw [location_of_slot hslot] at hfile
    rw [Artifact.location, hfile] at hnode
    exact Node.file.inj (Option.some.inj hnode)
  rw [h.emit_eq, hpolicy, putFile, overwrite, hread]
  simp only
  rw [if_pos hcontents]

/-- Emitting a settled file of the generator again succeeds and brings it up to date. -/
theorem Settled.emit_overwrite (h : Settled workingDirectory output t a)
    (hpolicy : a.kind.policy = .overwrite) :
    ∃ outcome u, t.emit workingDirectory output a = (.ok outcome, u) ∧
      outcome.isPreserved = false ∧
      ∀ place, u.find? place =
        if place = a.location workingDirectory output then some (.file a.bytes)
        else t.find? place := by
  obtain ⟨contents, hread⟩ := h.owned hpolicy
  obtain ⟨s, hslot, hslash, hfile⟩ := read_eq_ok_iff.mp hread
  have hput : ∃ outcome u, t.overwrite workingDirectory (a.pathBelow output) a.bytes =
      (.ok outcome, u) ∧ outcome.isPreserved = false := by
    unfold overwrite
    rw [hread]
    by_cases hsame : contents = a.bytes
    · exact ⟨.unchanged, t, by simp only [if_pos hsame], rfl⟩
    · have hwrite : t.write workingDirectory (a.pathBelow output) a.bytes =
          .ok (t.put s.location (.file a.bytes)) :=
        write_eq_ok_iff.mpr ⟨s, hslot, hslash, by rw [hfile]; exact nofun, rfl⟩
      refine ⟨.written, t.put s.location (.file a.bytes), ?_, rfl⟩
      simp only [if_neg hsame, replace, hwrite]
  obtain ⟨outcome, u, hu, hne⟩ := hput
  refine ⟨outcome, u, ?_, hne, (overwrite_spec hu).2.2⟩
  rw [h.emit_eq, hpolicy]
  exact hu

-- What an emission does is known from here on by the statements above.
attribute [irreducible] emit

end FileTree

end EntityScaffold
