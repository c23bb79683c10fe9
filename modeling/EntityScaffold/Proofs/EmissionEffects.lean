import EntityScaffold.Proofs.CompletedTrees
import EntityScaffold.Proofs.Containment

/-!
# What one emission does to the tree

An emission fails and has only added directories on the way to its file, or it succeeds and the file
is there (`Emitted`). In that case nothing but the file and the directories on the way to it has
changed, and the outcome tells what stood in the place of the file before.

There is one exception to the last point. The directories come first, and a path with `..` in it may
pass the place of its own file (`Room.java/../Room.java`). If that place was free there is a
directory then, and a file of the developer counts as preserved although it was never there
(`directory_counts_as_preserved`). A path that does not lead upwards keeps clear of its own file
(`Artifact.not_leadsThrough_location`).
-/

namespace EntityScaffold

/-! ## The name of the file -/

/-- A joined path ends with the text of its second part. -/
theorem Path.suffix_join (p q : Path) : q.text.toList <:+ (p.join q).text.toList := by
  unfold join
  split
  · exact List.suffix_rfl
  split
  · exact ⟨p.text.toList, by simp⟩
  · exact ⟨p.text.toList ++ ['/'], by simp⟩

namespace Artifact

open Text FileTree

variable {t : FileTree} {workingDirectory : Location} {output : Path} {s : Slot}

theorem exists_text_pathBelow (a : Artifact) (output : Path) :
    ∃ front, (a.pathBelow output).text.toList = front ++ ".java".toList := by
  have hfile : (a.className ++ ".java").toList <:+ a.relativePath.text.toList := by
    rw [relativePath_eq_ofParts]
    exact Path.suffix_join _ ⟨a.className ++ ".java"⟩
  obtain ⟨front, hfront⟩ := hfile.trans (Path.suffix_join output a.relativePath)
  refine ⟨front ++ a.className.toList, ?_⟩
  rw [pathBelow, ← hfront, String.toList_append, List.append_assoc]

/-- The last name of the path is that of a file, never `.` or `..`. -/
theorem exists_pathNames_pathBelow (a : Artifact) (output : Path) :
    ∃ names file, pathNames (a.pathBelow output) = names ++ [file] ∧ file ≠ "." ∧ file ≠ ".." := by
  obtain ⟨front, htext⟩ := a.exists_text_pathBelow output
  have hsuffix : '/' ∉ ".java".toList := by decide
  obtain ⟨before, last, -, hpieces⟩ := split_append_of_not_mem hsuffix front
  have hlong {short : String} (hshort : short.toList.length < 5) :
      String.ofList (last ++ ".java".toList) ≠ short := by
    rintro rfl
    rw [String.toList_ofList, List.length_append] at hshort
    have : ".java".toList.length = 5 := rfl
    omega
  refine ⟨(before.filter fun piece => !piece.isEmpty).map String.ofList,
    String.ofList (last ++ ".java".toList), ?_, hlong (by decide), hlong (by decide)⟩
  have hne : (last ++ ".java".toList).isEmpty = false := by simp
  rw [pathNames, Path.pieces, htext, hpieces, List.filter_append,
    List.filter_cons_of_pos (by rw [hne]; rfl), List.filter_nil, List.map_append]
  rfl

/-- A path that does not lead upwards passes other places than that of the file. -/
theorem not_leadsThrough_location {a : Artifact} (hup : ".." ∉ (a.pathBelow output).names)
    (workingDirectory : Location) :
    ¬ LeadsThrough workingDirectory (a.pathBelow output) (a.location workingDirectory output) := by
  obtain ⟨names, file, hnames, hdot, -⟩ := a.exists_pathNames_pathBelow output
  have hne : (a.pathBelow output).names ≠ [] := by
    rw [Path.names_eq_filter_pathNames, hnames, List.filter_append]
    simp [hdot]
  rintro ⟨directory, hparent, p, hp, hplace⟩
  exact Path.location_ne_of_mem_ancestors_parent? hne hup hparent hp workingDirectory hplace

/-- Where the path of an artifact leads somewhere, it leads to a name in a directory. -/
theorem isSome_name?_of_slot {a : Artifact}
    (h : t.slot workingDirectory (a.pathBelow output) = .ok s) : s.name?.isSome = true := by
  obtain ⟨names, file, hnames, hdot, hup⟩ := a.exists_pathNames_pathBelow output
  obtain ⟨-, directory, -, hlast⟩ := slot_eq_ok_iff.mp h
  unfold slotIn at hlast
  rw [hnames, List.getLast?_concat] at hlast
  simp only [if_neg hdot, if_neg hup] at hlast
  split at hlast
  · cases hlast
  · rw [← Except.ok.inj hlast]
    rfl

end Artifact

namespace FileTree

variable {t u ready : FileTree} {workingDirectory : Location} {output path : Path} {a : Artifact}
  {contents : ByteArray} {outcome : Outcome}

/-! ## Outcomes and what stood there before -/

/-- An overwrite that succeeds leaves the file unchanged exactly if it had the contents already. -/
theorem overwrite_unchanged_iff
    (h : t.overwrite workingDirectory path contents = (.ok outcome, u)) :
    (outcome = .unchanged ↔
      t.find? (path.location workingDirectory) = some (.file contents)) ∧
    (outcome = .written ↔
      t.find? (path.location workingDirectory) ≠ some (.file contents)) := by
  rcases overwrite_eq_ok h with ⟨rfl, rfl, hread⟩ | ⟨rfl, hwrite⟩
  · obtain ⟨s, hslot, -, hnode⟩ := read_eq_ok_iff.mp hread
    rw [location_of_slot hslot] at hnode
    simp [hnode]
  · -- a file with these contents would have been read, and nothing written
    have hother : t.find? (path.location workingDirectory) ≠ some (.file contents) := by
      intro hnode
      obtain ⟨s, hslot, hslash, -, -⟩ := write_eq_ok_iff.mp hwrite
      rw [← location_of_slot hslot] at hnode
      have hread := read_eq_ok_iff.mpr ⟨s, hslot, hslash, hnode⟩
      rw [overwrite, hread] at h
      simp only [if_pos] at h
      cases h
    simp [hother]

/-- New directories are not in the place of a file that was there before, and do not make one. -/
theorem AddsDirectoriesAt.find?_eq_file_iff {places : Location → Prop}
    (h : AddsDirectoriesAt places t u) {place : Location} :
    u.find? place = some (.file contents) ↔ t.find? place = some (.file contents) := by
  rcases h place with hsame | ⟨-, hnone, hadded⟩
  · rw [hsame]
  · simp [hnone, hadded]

/-- What an emission that succeeds has done, from one tree to the next. -/
structure Emitted (workingDirectory : Location) (output : Path) (a : Artifact) (t : FileTree)
    (outcome : Outcome) (u : FileTree) : Prop where
  /-- The file is there, at the place that its path denotes. -/
  holds : u.holds workingDirectory (a.pathBelow output) = true ∧
    (u.find? (a.location workingDirectory output)).isSome
  /-- All else is as it was, apart from new directories on the way to the file. -/
  elsewhere : ∀ place, place ≠ a.location workingDirectory output →
    u.find? place = t.find? place ∨
      LeadsThrough workingDirectory (a.pathBelow output) place ∧ t.find? place = none ∧
        u.find? place = some .directory
  /-- A file of the generator has the emitted contents, and is unchanged if it had them before. -/
  owned : a.kind.policy = .overwrite →
    u.find? (a.location workingDirectory output) = some (.file a.bytes) ∧
      (outcome = .unchanged ↔
        t.find? (a.location workingDirectory output) = some (.file a.bytes)) ∧
      (outcome = .written ↔
        t.find? (a.location workingDirectory output) ≠ some (.file a.bytes))
  /-- What was in the place of a file of the developer is left alone. Else the file is written,
  unless there is a directory now that the emission itself has made on the way. -/
  created : a.kind.policy = .createOnly →
    (outcome = .preserved ∧ (t.find? (a.location workingDirectory output)).isSome ∧
      u.find? (a.location workingDirectory output) =
        t.find? (a.location workingDirectory output)) ∨
    (outcome = .preserved ∧ t.find? (a.location workingDirectory output) = none ∧
      LeadsThrough workingDirectory (a.pathBelow output) (a.location workingDirectory output) ∧
      u.find? (a.location workingDirectory output) = some .directory) ∨
    (outcome = .written ∧ t.find? (a.location workingDirectory output) = none ∧
      u.find? (a.location workingDirectory output) = some (.file a.bytes))

/-- Whatever is settled is there. -/
theorem Settled.holds (h : Settled workingDirectory output t a) :
    t.holds workingDirectory (a.pathBelow output) = true := by
  cases hpolicy : a.kind.policy with
  | overwrite =>
    obtain ⟨contents, hread⟩ := h.owned hpolicy
    unfold FileTree.holds
    unfold read at hread
    split at hread
    · cases hread
    · next hstat =>
      rw [hstat]
      rfl
    · next hstat =>
      rw [hstat]
      rfl
  | createOnly =>
    obtain ⟨s, hslot, hslash, hsome⟩ := create_eq_alreadyExists_iff.mp (h.created hpolicy)
    rw [Artifact.isSome_name?_of_slot hslot, Bool.true_and] at hslash
    obtain ⟨node, hnode⟩ := Option.isSome_iff_exists.mp hsome
    unfold FileTree.holds stat
    rw [hslot]
    simp only [hnode, hslash]
    cases node <;> rfl

/-- An emission that succeeds does what it should. -/
theorem emitted_of_emit (h : t.emit workingDirectory output a = (.ok outcome, u)) :
    Emitted workingDirectory output a t outcome u := by
  obtain ⟨ready, hadds, -, hput⟩ := emit_eq_ok h
  have hsettled := settled_of_emit h
  refine ⟨⟨hsettled.holds, hsettled.isSome⟩, fun place hplace => ?_, fun hpolicy => ?_,
    fun hpolicy => ?_⟩
  · have hsame := (putFile_eq_ok hput place).resolve_right fun hthere => hplace hthere.1.symm
    rw [hsame]
    exact hadds place
  · rw [hpolicy] at hput
    have hfile : ready.find? (a.location workingDirectory output) = some (.file a.bytes) ↔
        t.find? (a.location workingDirectory output) = some (.file a.bytes) :=
      hadds.find?_eq_file_iff
    refine ⟨?_, ?_⟩
    · rw [(overwrite_spec hput).2.2]
      exact if_pos rfl
    · rw [← hfile, Ne, ← hfile]
      exact overwrite_unchanged_iff hput
  · rw [hpolicy] at hput
    rcases createOnce_eq_ok hput with ⟨rfl, hcreate⟩ | ⟨rfl, rfl, hexists⟩
    · obtain ⟨s, hslot, -, hnone, -⟩ := create_eq_ok_iff.mp hcreate
      rw [location_of_slot hslot] at hnone
      have hfree : t.find? (a.location workingDirectory output) = none := by
        rcases hadds (a.location workingDirectory output) with hsame | ⟨-, hfree, -⟩
        · rw [← hsame]
          exact hnone
        · exact hfree
      refine .inr (.inr ⟨rfl, hfree, ?_⟩)
      rw [find?_create hcreate]
      exact if_pos rfl
    · rcases hadds (a.location workingDirectory output) with hsame | ⟨hthrough, hfree, hadded⟩
      · refine .inl ⟨rfl, ?_, hsame⟩
        rw [← hsame]
        exact hsettled.isSome
      · exact .inr (.inl ⟨rfl, hfree, hthrough, hadded⟩)

/-- A file of the developer is preserved exactly if something was in its place before or its own
path passes this place. The working directory has to be there if the path starts in it. -/
theorem preserved_iff (h : t.emit workingDirectory output a = (.ok outcome, u))
    (hpolicy : a.kind.policy = .createOnly)
    (hstands : output.isAbsolute = false → t.Stands workingDirectory) :
    outcome = .preserved ↔ (t.find? (a.location workingDirectory output)).isSome ∨
      LeadsThrough workingDirectory (a.pathBelow output) (a.location workingDirectory output) := by
  have hkeeps : KeepsDirectories t u := by
    have hretains := t.retains_emit workingDirectory output a
    rw [h] at hretains
    exact hretains.keepsDirectories
  rcases (emitted_of_emit h).created hpolicy with
    ⟨rfl, hsome, -⟩ | ⟨rfl, -, hthrough, -⟩ | ⟨rfl, hnone, hfile⟩
  · exact ⟨fun _ => .inl hsome, fun _ => rfl⟩
  · exact ⟨fun _ => .inr hthrough, fun _ => rfl⟩
  · refine ⟨nofun, fun hplace => ?_⟩
    rcases hplace with hsome | hthrough
    · rw [hnone] at hsome
      cases hsome
    · have hdirectory := (settled_of_emit h).isDirectory
        (fun hrelative => (hstands hrelative).mono hkeeps) hthrough
      rw [hfile] at hdirectory
      cases hdirectory

end FileTree

/-! ## On a world -/

namespace Artifact

open FileTree

/-- An emission fails because of a file or a directory, and then only directories are new, or it
succeeds and has done what it should. A file of the developer is preserved exactly if something was
in its place before or its own path passes this place, provided that the directory in which the path
starts is there. Only a path that leads upwards can pass the place of its own file. -/
theorem emission_effects (output : Path) (a : Artifact) (w : World) :
    let result := ((a.emit output : Attempt Simulation Outcome).runIn w).1
    let after := ((a.emit output : Attempt Simulation Outcome).runIn w).2
    let target := a.location w.workingDirectory output
    let through := LeadsThrough w.workingDirectory (a.pathBelow output)
    after.workingDirectory = w.workingDirectory ∧
      (".." ∉ (a.pathBelow output).names → ¬ through target) ∧
      ((∃ path cause, result = .error (.file path cause)) ∧
          AddsDirectoriesAt through w.tree after.tree ∨
        ∃ outcome, result = .ok outcome ∧
          Emitted w.workingDirectory output a w.tree outcome after.tree ∧
          (a.kind.policy = .createOnly →
            (output.isAbsolute = false → w.tree.Stands w.workingDirectory) →
            (outcome = .preserved ↔ (w.tree.find? target).isSome ∨ through target))) := by
  intro result after target through
  obtain ⟨log, hrun⟩ := runIn_emit output a w
  have hresult : result = (w.tree.emit w.workingDirectory output a).1 := congrArg Prod.fst hrun
  have hafter : after = ⟨(w.tree.emit w.workingDirectory output a).2, w.workingDirectory, log⟩ :=
    congrArg Prod.snd hrun
  rw [hresult, hafter]
  refine ⟨rfl, fun hup => not_leadsThrough_location hup w.workingDirectory, ?_⟩
  rcases hemit : w.tree.emit w.workingDirectory output a with ⟨failure | outcome, u⟩
  · left
    obtain ⟨path, cause, rfl, -⟩ := emit_failure hemit
    exact ⟨⟨path, cause, rfl⟩, emit_eq_error hemit⟩
  · right
    exact ⟨outcome, rfl, emitted_of_emit hemit, preserved_iff hemit⟩

/-- An output directory whose path leads through a place called like the file and out of it
again. -/
def windingOutput : Path :=
  ⟨"Room.java/.."⟩

/-- A class that the developer may edit. -/
def roomStub : Artifact :=
  ⟨.concrete, "", "Room", "class Room"⟩

/-- Nothing is in the place of the file, but the emission makes a directory there and reports that
it has preserved something. -/
theorem directory_counts_as_preserved :
    let w : World := ⟨⟨[(["work"], .directory)]⟩, ["work"], []⟩
    let emitted := (roomStub.emit windingOutput : Attempt Simulation Outcome).runIn w
    w.tree.find? (roomStub.location ["work"] windingOutput) = none ∧
      emitted.1.toOption = some .preserved ∧
      emitted.2.tree.find? (roomStub.location ["work"] windingOutput) = some .directory := by
  decide +kernel

end Artifact

end EntityScaffold
