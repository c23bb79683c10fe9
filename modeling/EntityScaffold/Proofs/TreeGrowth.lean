import EntityScaffold.Proofs.PathComponents

/-!
# Growth of trees

No operation takes anything away from a tree. What two trees before and after it have in common is
one of these, from the strictest to the loosest:

* `AddsDirectories`: directories may be new, and nothing else differs; `AddsDirectoriesAt` says
  where they may be new;
* `Retains`: directories stay directories and files stay files, and only the files at certain
  locations may have new contents;
* `KeepsDirectories`: directories stay directories, so a path that led somewhere still leads there
  (`KeepsDirectories.slot`).

Every operation is described by when it succeeds (`read_eq_ok_iff`, `write_eq_ok_iff` and so on) and
by what it leaves at each location (`find?_write`, `find?_create`).
-/

namespace EntityScaffold.FileTree

variable {t u v : FileTree} {workingDirectory : Location} {p : Path} {contents : ByteArray}

/-! ## Relations between trees -/

/-- The trees differ by new directories only. -/
def AddsDirectories (t u : FileTree) : Prop :=
  ∀ location, u.find? location = t.find? location ∨
    t.find? location = none ∧ u.find? location = some .directory

/-- What stands in the first tree stands in the second, and only files at `free` locations may have
other contents there. -/
structure Retains (free : Location → Prop) (t u : FileTree) : Prop where
  directory : ∀ location, t.find? location = some .directory → u.find? location = some .directory
  file : ∀ location contents, t.find? location = some (.file contents) →
    ∃ contents', u.find? location = some (.file contents') ∧
      (contents' = contents ∨ free location)

/-- The directories of the first tree are directories of the second. -/
def KeepsDirectories (t u : FileTree) : Prop :=
  ∀ location, t.find? location = some .directory → u.find? location = some .directory

theorem AddsDirectories.refl (t : FileTree) : AddsDirectories t t :=
  fun _ => .inl rfl

theorem AddsDirectories.trans (htu : AddsDirectories t u) (huv : AddsDirectories u v) :
    AddsDirectories t v := by
  intro location
  rcases huv location with hv | ⟨hnone, hv⟩
  · rw [hv]
    exact htu location
  · rcases htu location with hu | ⟨-, hu⟩
    · exact .inr ⟨hu ▸ hnone, hv⟩
    · rw [hu] at hnone
      cases hnone

/-- The trees differ by new directories only, all of them at the given places. -/
def AddsDirectoriesAt (places : Location → Prop) (t u : FileTree) : Prop :=
  ∀ location, u.find? location = t.find? location ∨
    places location ∧ t.find? location = none ∧ u.find? location = some .directory

theorem AddsDirectoriesAt.refl (places : Location → Prop) (t : FileTree) :
    AddsDirectoriesAt places t t :=
  fun _ => .inl rfl

theorem AddsDirectoriesAt.trans {places : Location → Prop} (htu : AddsDirectoriesAt places t u)
    (huv : AddsDirectoriesAt places u v) : AddsDirectoriesAt places t v := by
  intro location
  rcases huv location with hv | ⟨hplace, hnone, hv⟩
  · rw [hv]
    exact htu location
  · rcases htu location with hu | ⟨-, -, hu⟩
    · exact .inr ⟨hplace, hu ▸ hnone, hv⟩
    · rw [hu] at hnone
      cases hnone

theorem AddsDirectoriesAt.mono {places more : Location → Prop}
    (h : AddsDirectoriesAt places t u) (hmore : ∀ location, places location → more location) :
    AddsDirectoriesAt more t u := by
  intro location
  exact (h location).imp_right fun ⟨hplace, hadded⟩ => ⟨hmore location hplace, hadded⟩

theorem AddsDirectoriesAt.addsDirectories {places : Location → Prop}
    (h : AddsDirectoriesAt places t u) : AddsDirectories t u := by
  intro location
  exact (h location).imp_right And.right

instance (places : Location → Prop) : Std.Refl (AddsDirectoriesAt places) :=
  ⟨AddsDirectoriesAt.refl places⟩

instance (places : Location → Prop) : Trans (AddsDirectoriesAt places) (AddsDirectoriesAt places)
    (AddsDirectoriesAt places) :=
  ⟨AddsDirectoriesAt.trans⟩

instance : Std.Refl (@Eq FileTree) :=
  ⟨Eq.refl⟩

instance : Std.Refl AddsDirectories :=
  ⟨AddsDirectories.refl⟩

instance : Trans AddsDirectories AddsDirectories AddsDirectories :=
  ⟨AddsDirectories.trans⟩

theorem AddsDirectories.retains (h : AddsDirectories t u) (free : Location → Prop) :
    Retains free t u where
  directory := by
    intro location ht
    rcases h location with hu | ⟨hnone, -⟩
    · rw [hu, ht]
    · rw [ht] at hnone
      cases hnone
  file := by
    intro location contents ht
    rcases h location with hu | ⟨hnone, -⟩
    · exact ⟨contents, hu.trans ht, .inl rfl⟩
    · rw [ht] at hnone
      cases hnone

theorem Retains.refl (free : Location → Prop) (t : FileTree) : Retains free t t :=
  (AddsDirectories.refl t).retains free

theorem Retains.trans {free : Location → Prop} (htu : Retains free t u) (huv : Retains free u v) :
    Retains free t v where
  directory := fun location ht => huv.directory location (htu.directory location ht)
  file := by
    intro location contents ht
    obtain ⟨contents₁, hu, h₁⟩ := htu.file location contents ht
    obtain ⟨contents₂, hv, h₂⟩ := huv.file location contents₁ hu
    refine ⟨contents₂, hv, ?_⟩
    rcases h₂ with rfl | hfree
    · exact h₁
    · exact .inr hfree

theorem Retains.mono {free more : Location → Prop} (h : Retains free t u)
    (hmore : ∀ location, free location → more location) : Retains more t u where
  directory := h.directory
  file := by
    intro location contents ht
    obtain ⟨contents', hu, h'⟩ := h.file location contents ht
    exact ⟨contents', hu, h'.imp_right (hmore location)⟩

theorem Retains.keepsDirectories {free : Location → Prop} (h : Retains free t u) :
    KeepsDirectories t u :=
  h.directory

/-- Whatever stands at a location, something stands there afterwards. -/
theorem Retains.isSome {free : Location → Prop} (h : Retains free t u) {location : Location}
    (ht : (t.find? location).isSome) : (u.find? location).isSome := by
  obtain ⟨node, hnode⟩ := Option.isSome_iff_exists.mp ht
  cases node with
  | directory => rw [h.directory location hnode]; rfl
  | file contents =>
    obtain ⟨contents', hu, -⟩ := h.file location contents hnode
    rw [hu]
    rfl

/-- A new file at a location where no directory stands. -/
theorem retains_of_find?_eq {location : Location} (hfree : t.find? location ≠ some .directory)
    (hu : ∀ other, u.find? other =
      if other = location then some (.file contents) else t.find? other) :
    Retains (· = location) t u where
  directory := by
    intro other ht
    have hne : other ≠ location := fun h => hfree (h ▸ ht)
    rw [hu, if_neg hne, ht]
  file := by
    intro other old ht
    by_cases h : other = location
    · exact ⟨contents, by rw [hu, if_pos h], .inr h⟩
    · exact ⟨old, by rw [hu, if_neg h, ht], .inl rfl⟩

/-! ## Paths in a growing tree -/

theorem KeepsDirectories.enters (h : KeepsDirectories t u) {here : Location} {name : String}
    (ht : t.Enters here name) : u.Enters here name := by
  rcases ht with hdot | hup | ⟨hshort, hnode⟩
  · exact .inl hdot
  · exact .inr (.inl hup)
  · exact .inr (.inr ⟨hshort, h _ hnode⟩)

theorem KeepsDirectories.walk (h : KeepsDirectories t u) {here there : Location}
    {names : List String} (ht : t.walk here names = .ok there) : u.walk here names = .ok there := by
  induction names generalizing here with
  | nil => exact ht
  | cons name names ih =>
    obtain ⟨henters, hrest⟩ := walk_cons_eq_ok_iff.mp ht
    exact walk_cons_eq_ok_iff.mpr ⟨h.enters henters, ih hrest⟩

/-- A path that leads somewhere still leads there when all directories are kept. -/
theorem KeepsDirectories.slot (h : KeepsDirectories t u) {s : Slot}
    (ht : t.slot workingDirectory p = .ok s) : u.slot workingDirectory p = .ok s := by
  obtain ⟨hp, directory, hwalk, hlast⟩ := slot_eq_ok_iff.mp ht
  exact slot_eq_ok_iff.mpr ⟨hp, directory, h.walk hwalk, hlast⟩

theorem walk_ne_alreadyExists (t : FileTree) (here : Location) (names : List String) :
    t.walk here names ≠ .error .alreadyExists := by
  induction names generalizing here with
  | nil => intro h; cases h
  | cons name names ih =>
    rw [FileTree.walk]
    split
    · exact ih here
    split
    · exact ih here.dropLast
    split
    · intro h; cases h
    split
    · intro h; cases h
    · intro h; cases h
    · exact ih (here ++ [name])

/-- That something exists already is never the reason why a path leads nowhere. -/
theorem slot_ne_alreadyExists (t : FileTree) (workingDirectory : Location) (p : Path) :
    t.slot workingDirectory p ≠ .error .alreadyExists := by
  intro h
  unfold FileTree.slot at h
  split at h
  · cases h
  split at h
  · cases h
  split at h
  · cases h
  simp only at h
  split at h
  · next hwalk =>
    rw [Except.error.inj h] at hwalk
    exact t.walk_ne_alreadyExists _ _ hwalk
  split at h
  · cases h
  split at h
  · cases h
  split at h
  · cases h
  split at h
  · cases h
  · cases h

/-! ## When operations succeed -/

theorem stat_eq_directory_iff : t.stat workingDirectory p = .ok .directory ↔
    ∃ s, t.slot workingDirectory p = .ok s ∧ t.find? s.location = some .directory := by
  unfold stat
  cases hslot : t.slot workingDirectory p with
  | error cause => simp
  | ok s =>
    cases hnode : t.find? s.location with
    | none => simp [hnode]
    | some node =>
      cases node with
      | directory => simp [hnode]
      | file contents =>
        simp only [hnode, Except.ok.injEq, exists_eq_left', reduceCtorEq, Option.some.injEq]
        split <;> simp

theorem holdsDirectory_iff : t.holdsDirectory workingDirectory p = true ↔
    ∃ s, t.slot workingDirectory p = .ok s ∧ t.find? s.location = some .directory := by
  rw [← stat_eq_directory_iff]
  unfold holdsDirectory
  split
  · next h => simp [h]
  · next h => simpa using h

theorem read_eq_ok_iff : t.read workingDirectory p = .ok contents ↔
    ∃ s, t.slot workingDirectory p = .ok s ∧ s.directoryOnly = false ∧
      t.find? s.location = some (.file contents) := by
  unfold read stat
  cases hslot : t.slot workingDirectory p with
  | error cause => simp
  | ok s =>
    cases hnode : t.find? s.location with
    | none => simp [hnode]
    | some node =>
      cases node with
      | directory => simp [hnode]
      | file present =>
        cases hslash : s.directoryOnly with
        | true => simp [hnode, hslash]
        | false => simp [hnode, hslash]

theorem write_eq_ok_iff : t.write workingDirectory p contents = .ok u ↔
    ∃ s, t.slot workingDirectory p = .ok s ∧ s.directoryOnly = false ∧
      t.find? s.location ≠ some .directory ∧ u = t.put s.location (.file contents) := by
  unfold write isDirectoryAt
  cases hslot : t.slot workingDirectory p with
  | error cause => simp
  | ok s =>
    simp only [Except.ok.injEq, exists_eq_left']
    cases s.directoryOnly with
    | true => simp
    | false =>
      by_cases hnode : t.find? s.location = some .directory
      · simp [hnode]
      · simp only [hnode, Bool.false_or, decide_false, Bool.false_eq_true, if_false,
          Except.ok.injEq, ne_eq, not_false_eq_true, true_and]
        exact eq_comm

theorem create_eq_ok_iff : t.create workingDirectory p contents = .ok u ↔
    ∃ s, t.slot workingDirectory p = .ok s ∧ (s.name?.isSome && s.directoryOnly) = false ∧
      t.find? s.location = none ∧ u = t.put s.location (.file contents) := by
  unfold create
  cases hslot : t.slot workingDirectory p with
  | error cause => simp
  | ok s =>
    simp only [Except.ok.injEq, exists_eq_left']
    cases s.name?.isSome && s.directoryOnly with
    | true => simp
    | false =>
      cases t.find? s.location with
      | none =>
        simp only [Bool.false_eq_true, if_false, Option.isSome_none, Except.ok.injEq, true_and]
        exact eq_comm
      | some node => simp

theorem create_eq_alreadyExists_iff :
    t.create workingDirectory p contents = .error .alreadyExists ↔
      ∃ s, t.slot workingDirectory p = .ok s ∧ (s.name?.isSome && s.directoryOnly) = false ∧
        (t.find? s.location).isSome := by
  unfold create
  cases hslot : t.slot workingDirectory p with
  | error cause =>
    have hcause : cause ≠ .alreadyExists := by
      rintro rfl
      exact t.slot_ne_alreadyExists _ _ hslot
    simpa using hcause
  | ok s =>
    simp only [Except.ok.injEq, exists_eq_left']
    cases s.name?.isSome && s.directoryOnly with
    | true => simp
    | false => cases t.find? s.location <;> simp

theorem createDirectory_eq_ok_iff : t.createDirectory workingDirectory p = .ok u ↔
    ∃ s, t.slot workingDirectory p = .ok s ∧ t.find? s.location = none ∧
      u = t.put s.location .directory := by
  unfold createDirectory
  cases hslot : t.slot workingDirectory p with
  | error cause => simp
  | ok s =>
    simp only [Except.ok.injEq, exists_eq_left']
    cases t.find? s.location with
    | none =>
      simp only [Option.isSome_none, Bool.false_eq_true, if_false, Except.ok.injEq, true_and]
      exact eq_comm
    | some node => simp

/-! ## What operations leave -/

/-- Only the root is at the empty location, and it is a directory. -/
theorem ne_nil_of_find?_ne {location : Location} (h : t.find? location ≠ some .directory) :
    location ≠ [] := by
  rintro rfl
  exact h t.find?_root

theorem find?_write (h : t.write workingDirectory p contents = .ok u) (location : Location) :
    u.find? location =
      if location = p.location workingDirectory then some (.file contents)
      else t.find? location := by
  obtain ⟨s, hslot, -, hnode, rfl⟩ := write_eq_ok_iff.mp h
  rw [find?_put t _ location (ne_nil_of_find?_ne hnode), location_of_slot hslot]

theorem find?_create (h : t.create workingDirectory p contents = .ok u) (location : Location) :
    u.find? location =
      if location = p.location workingDirectory then some (.file contents)
      else t.find? location := by
  obtain ⟨s, hslot, -, hnode, rfl⟩ := create_eq_ok_iff.mp h
  have hne : t.find? s.location ≠ some .directory := by rw [hnode]; exact nofun
  rw [find?_put t _ location (ne_nil_of_find?_ne hne), location_of_slot hslot]

theorem find?_createDirectory (h : t.createDirectory workingDirectory p = .ok u)
    (location : Location) :
    u.find? location =
      if location = p.location workingDirectory then some .directory else t.find? location := by
  obtain ⟨s, hslot, hnode, rfl⟩ := createDirectory_eq_ok_iff.mp h
  have hne : t.find? s.location ≠ some .directory := by rw [hnode]; exact nofun
  rw [find?_put t _ location (ne_nil_of_find?_ne hne), location_of_slot hslot]

theorem retains_write (h : t.write workingDirectory p contents = .ok u) :
    Retains (· = p.location workingDirectory) t u := by
  obtain ⟨s, hslot, -, hnode, -⟩ := write_eq_ok_iff.mp h
  rw [location_of_slot hslot] at hnode
  exact retains_of_find?_eq hnode (find?_write h)

/-- A created file changes nothing that was there. -/
theorem retains_create (h : t.create workingDirectory p contents = .ok u)
    (free : Location → Prop) : Retains free t u := by
  obtain ⟨s, hslot, -, hnone, -⟩ := create_eq_ok_iff.mp h
  rw [location_of_slot hslot] at hnone
  have hu (location : Location) (hsome : (t.find? location).isSome) :
      u.find? location = t.find? location := by
    rw [find?_create h, if_neg]
    rintro rfl
    rw [hnone] at hsome
    cases hsome
  refine ⟨fun location ht => ?_, fun location contents ht => ⟨contents, ?_, .inl rfl⟩⟩
  · rw [hu location (by rw [ht]; rfl), ht]
  · rw [hu location (by rw [ht]; rfl), ht]

theorem addsDirectoriesAt_createDirectory (h : t.createDirectory workingDirectory p = .ok u) :
    AddsDirectoriesAt (· = p.location workingDirectory) t u := by
  obtain ⟨s, hslot, hnone, -⟩ := createDirectory_eq_ok_iff.mp h
  rw [location_of_slot hslot] at hnone
  intro location
  rw [find?_createDirectory h]
  by_cases hl : location = p.location workingDirectory
  · rw [if_pos hl]
    exact .inr ⟨hl, hl ▸ hnone, rfl⟩
  · rw [if_neg hl]
    exact .inl rfl

/-! ## Directories -/

theorem KeepsDirectories.holdsDirectory (h : KeepsDirectories t u)
    (ht : t.holdsDirectory workingDirectory p = true) :
    u.holdsDirectory workingDirectory p = true := by
  obtain ⟨s, hslot, hnode⟩ := holdsDirectory_iff.mp ht
  exact holdsDirectory_iff.mpr ⟨s, h.slot hslot, h _ hnode⟩

/-- A directory that is there already is left alone. -/
theorem ensureDirectory_of_holdsDirectory (h : t.holdsDirectory workingDirectory p = true) :
    t.ensureDirectory workingDirectory p = .ok t := by
  obtain ⟨s, hslot, hnode⟩ := holdsDirectory_iff.mp h
  have hexists : t.createDirectory workingDirectory p = .error .alreadyExists := by
    unfold createDirectory
    rw [hslot]
    simp [hnode]
  unfold ensureDirectory
  rw [hexists]
  simp [h]

/-- Whenever a directory is ensured it is there, and nothing else has changed. -/
theorem ensureDirectory_spec (h : t.ensureDirectory workingDirectory p = .ok u) :
    AddsDirectoriesAt (· = p.location workingDirectory) t u ∧
      u.holdsDirectory workingDirectory p = true := by
  unfold ensureDirectory at h
  split at h
  · next v hcreate =>
    cases Except.ok.inj h
    have hadds := addsDirectoriesAt_createDirectory hcreate
    obtain ⟨s, hslot, -, -⟩ := createDirectory_eq_ok_iff.mp hcreate
    refine ⟨hadds, holdsDirectory_iff.mpr ⟨s, ?_, ?_⟩⟩
    · exact (hadds.addsDirectories.retains fun _ => False).keepsDirectories.slot hslot
    · rw [find?_createDirectory hcreate, if_pos (location_of_slot hslot)]
  · split at h
    · next hholds =>
      cases Except.ok.inj h
      exact ⟨.refl _ t, hholds⟩
    · cases h

/-- A chain of directories adds directories only, and only those of the chain, also when it breaks
off. -/
theorem addsDirectoriesAt_createChain {places : Location → Prop} {workingDirectory : Location}
    {ps : List Path} (hplaces : ∀ p ∈ ps, places (p.location workingDirectory)) (t : FileTree) :
    AddsDirectoriesAt places t (createChain workingDirectory ps t).2 := by
  induction ps generalizing t with
  | nil => exact .refl places t
  | cons p above ih =>
    obtain ⟨hp, hrest⟩ := List.forall_mem_cons.mp hplaces
    have hensure {t u : FileTree} (h : t.ensureDirectory workingDirectory p = .ok u) :
        AddsDirectoriesAt places t u := by
      refine (ensureDirectory_spec h).1.mono fun location hlocation => ?_
      rw [hlocation]
      exact hp
    rw [createChain]
    split
    · exact .refl places t
    split
    · next u hu => exact hensure hu
    · have habove := ih hrest t
      split
      · next cause u hchain =>
        rw [hchain] at habove
        exact habove
      · next u hchain =>
        rw [hchain] at habove
        split
        · next v hv => exact habove.trans (hensure hv)
        · exact habove
    · exact .refl places t

/-- A chain of directories that does not break off ends with the directory asked for. -/
theorem holdsDirectory_of_createChain {above : List Path}
    (h : createChain workingDirectory (p :: above) t = (.ok (), u)) :
    p.text.isEmpty = true ∨ u.holdsDirectory workingDirectory p = true := by
  rw [createChain] at h
  split at h
  · next hempty => exact .inl hempty
  right
  split at h
  · next v hv =>
    cases h
    exact (ensureDirectory_spec hv).2
  · split at h
    · cases h
    · split at h
      · next v hv =>
        cases h
        exact (ensureDirectory_spec hv).2
      · cases h
  · cases h

theorem ancestors_eq_cons (p : Path) : ∃ above, p.ancestors = p :: above := by
  rw [Path.ancestors]
  split
  · exact ⟨_, rfl⟩
  · exact ⟨_, rfl⟩

/-- Only the directory asked for and those on the way to it may be new. -/
theorem addsDirectoriesAt_createDirectories (t : FileTree) (workingDirectory : Location)
    (p : Path) :
    AddsDirectoriesAt (fun place => ∃ q ∈ p.ancestors, q.location workingDirectory = place) t
      (t.createDirectories workingDirectory p).2 :=
  addsDirectoriesAt_createChain (fun q hq => ⟨q, hq, rfl⟩) t

theorem holdsDirectory_of_createDirectories
    (h : t.createDirectories workingDirectory p = (.ok (), u)) :
    p.text.isEmpty = true ∨ u.holdsDirectory workingDirectory p = true := by
  obtain ⟨above, hancestors⟩ := ancestors_eq_cons p
  rw [createDirectories, hancestors] at h
  exact holdsDirectory_of_createChain h

theorem createDirectories_of_holdsDirectory
    (h : p.text.isEmpty = true ∨ t.holdsDirectory workingDirectory p = true) :
    t.createDirectories workingDirectory p = (.ok (), t) := by
  obtain ⟨above, hancestors⟩ := ancestors_eq_cons p
  rw [createDirectories, hancestors, createChain]
  by_cases hempty : p.text.isEmpty
  · rw [if_pos hempty]
  · rw [if_neg hempty, ensureDirectory_of_holdsDirectory (h.resolve_left hempty)]

end EntityScaffold.FileTree
