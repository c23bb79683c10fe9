import EntityScaffold.FileTree.Access

/-!
# Components of paths

A joined path has the components of both parts, provided that the second part is relative
(`names_join`); an absolute one stands alone (`trail_join`). Where a path leads is a matter of its
names alone: `Path.location` follows them without a look at any tree, and whenever a tree lets a
path through, that is the location it comes to (`location_of_slot`).
-/

namespace EntityScaffold

namespace Text

/-- Pieces on the two sides of a separator are cut apart. -/
theorem split_append (sep : Char) (before after : List Char) :
    split sep (before ++ sep :: after) = split sep before ++ split sep after := by
  induction before with
  | nil => simp [split]
  | cons c cs ih =>
    rw [List.cons_append, split, split, ih]
    by_cases hc : c = sep
    · rw [if_pos hc, if_pos hc]; rfl
    · rw [if_neg hc, if_neg hc]
      cases hs : split sep cs with
      | nil => exact absurd hs (split_ne_nil sep cs)
      | cons piece pieces => rfl

/-- A text without a separator is its only piece. -/
theorem split_of_not_mem {sep : Char} {s : List Char} (h : sep ∉ s) : split sep s = [s] := by
  induction s with
  | nil => rfl
  | cons c cs ih =>
    obtain ⟨hc, hcs⟩ := not_or.mp (mt List.mem_cons.mpr h)
    rw [split, if_neg (Ne.symm hc), ih hcs]

/-- What stands in a piece stands in the text. -/
theorem mem_of_mem_split {sep c : Char} {s piece : List Char} (hpiece : piece ∈ split sep s)
    (hc : c ∈ piece) : c ∈ s := by
  have hjoin : ∀ pieces : List (List Char), piece ∈ pieces → c ∈ join sep pieces := by
    intro pieces
    induction pieces with
    | nil => exact fun h => absurd h List.not_mem_nil
    | cons first rest ih =>
      intro h
      cases rest with
      | nil =>
        rw [List.mem_singleton.mp h] at hc
        exact hc
      | cons second rest =>
        rw [join_cons sep first (List.cons_ne_nil _ _), List.mem_append, List.mem_cons]
        rcases List.mem_cons.mp h with rfl | h
        · exact .inl hc
        · exact .inr (.inr (ih h))
  have := hjoin _ hpiece
  rwa [join_split] at this

end Text

namespace Path

open Text FileTree

/-! ## Joined paths -/

/-- Pieces of a joined path, where empty ones do not count. -/
theorem filter_pieces_join (keep : List Char → Bool) (hempty : keep [] = false) (p : Path)
    {q : Path} (hq : q.isAbsolute = false) :
    (p.join q).pieces.filter keep = p.pieces.filter keep ++ q.pieces.filter keep := by
  unfold join pieces
  rw [hq, Bool.false_or]
  by_cases hp : p.text.isEmpty
  · have hnil : p.text = "" := by simpa using hp
    rw [if_pos hp, hnil]
    simp [split, hempty]
  · rw [if_neg hp]
    by_cases hslash : p.endsWithSlash
    · rw [if_pos hslash]
      have hlast : p.text.toList.getLast? = some '/' := by simpa [endsWithSlash] using hslash
      obtain ⟨before, hbefore⟩ := List.getLast?_eq_some_iff.mp hlast
      rw [String.toList_append, hbefore, List.append_assoc, List.singleton_append, split_append,
        split_append, List.filter_append, List.filter_append]
      simp [split, hempty]
    · rw [if_neg hslash]
      have htext : (p.text ++ "/" ++ q.text).toList = p.text.toList ++ '/' :: q.text.toList := by
        simp
      rw [htext, split_append, List.filter_append]

theorem isAbsolute_join (p : Path) {q : Path} (hq : q.isAbsolute = false) :
    (p.join q).isAbsolute = p.isAbsolute := by
  unfold join
  rw [hq, Bool.false_or]
  by_cases hp : p.text.isEmpty
  · have hnil : p.text = "" := by simpa using hp
    rw [if_pos hp, hq]
    simp [isAbsolute, hnil]
  · have hne : p.text.toList ≠ [] := by simpa using hp
    obtain ⟨c, cs, hcons⟩ := List.exists_cons_of_ne_nil hne
    rw [if_neg hp]
    split <;> simp [isAbsolute, hcons]

theorem names_join (p : Path) {q : Path} (hq : q.isAbsolute = false) :
    (p.join q).names = p.names ++ q.names := by
  unfold names
  rw [filter_pieces_join _ rfl p hq, List.map_append]

/-- A text without slashes is the only component of its path, unless it means nothing. -/
theorem names_of_slash_free {text : String} (hslash : '/' ∉ text.toList)
    (hidle : isIdle text.toList = false) : (⟨text⟩ : Path).names = [text] := by
  unfold names pieces
  rw [split_of_not_mem hslash, List.filter_cons_of_pos (by rw [hidle]; rfl)]
  simp

theorem isAbsolute_of_slash_free {text : String} (hslash : '/' ∉ text.toList) :
    (⟨text⟩ : Path).isAbsolute = false := by
  unfold isAbsolute
  cases htext : text.toList with
  | nil => rfl
  | cons c cs =>
    have hc : c ≠ '/' := by
      rintro rfl
      rw [htext] at hslash
      exact hslash List.mem_cons_self
    simpa using hc

/-! ## Trails -/

/-- What a path leads through: whether it starts at the root, and its components. -/
structure Trail where
  fromRoot : Bool
  names : List String
  deriving DecidableEq

/-- The trail of a path. -/
def trail (p : Path) : Trail :=
  ⟨p.isAbsolute, p.names⟩

/-- Both trails, one behind the other. The second one stands alone if it starts at the root. -/
def Trail.join (t u : Trail) : Trail :=
  if u.fromRoot then u else ⟨t.fromRoot, t.names ++ u.names⟩

theorem trail_join (p q : Path) : (p.join q).trail = p.trail.join q.trail := by
  cases hq : q.isAbsolute with
  | true =>
    have hjoin : p.join q = q := by simp [join, hq]
    have habsolute : q.trail.fromRoot = true := hq
    rw [hjoin, Trail.join, if_pos habsolute]
  | false =>
    have hrelative : ¬ q.trail.fromRoot = true := by simp [trail, hq]
    rw [Trail.join, if_neg hrelative, trail, isAbsolute_join p hq, names_join p hq]
    rfl

theorem trail_of_slash_free {text : String} (hslash : '/' ∉ text.toList)
    (hidle : isIdle text.toList = false) : (⟨text⟩ : Path).trail = ⟨false, [text]⟩ := by
  rw [trail, isAbsolute_of_slash_free hslash, names_of_slash_free hslash hidle]

/-- The path of something in a directory. -/
def enter (directory : Path) (part : String) : Path :=
  directory.join ⟨part⟩

/-- The trail goes on with a part. -/
def Trail.enter (t : Trail) (part : String) : Trail :=
  t.join (⟨part⟩ : Path).trail

/-- What parts lead through, each of them taken from the one before it. A part with slashes has
several components, and one that starts with a slash starts again at the root. -/
def trailOf (parts : List String) : Trail :=
  parts.foldl Trail.enter ⟨false, []⟩

theorem trail_foldl_enter (parts : List String) (start : Path) :
    (parts.foldl enter start).trail = parts.foldl Trail.enter start.trail := by
  induction parts generalizing start with
  | nil => rfl
  | cons part parts ih => rw [List.foldl_cons, ih, enter, trail_join, List.foldl_cons, Trail.enter]

/-- Parts that have no slashes and are not idle are the components. -/
theorem foldl_enter_of_slash_free {parts : List String}
    (h : ∀ part ∈ parts, '/' ∉ part.toList ∧ isIdle part.toList = false) (t : Trail) :
    parts.foldl Trail.enter t = ⟨t.fromRoot, t.names ++ parts⟩ := by
  induction parts generalizing t with
  | nil => rw [List.foldl_nil, List.append_nil]
  | cons part parts ih =>
    obtain ⟨⟨hslash, hidle⟩, hparts⟩ := List.forall_mem_cons.mp h
    have henter : t.enter part = ⟨t.fromRoot, t.names ++ [part]⟩ := by
      rw [Trail.enter, trail_of_slash_free hslash hidle]
      rfl
    rw [List.foldl_cons, ih hparts, henter, List.append_assoc, List.singleton_append]

end Path

/-! ## Locations -/

/-- The location that one name leads to. -/
def Location.follow (here : Location) (name : String) : Location :=
  if name = "." then here else if name = ".." then here.dropLast else here ++ [name]

/-- The location that a path denotes from a working directory, if everything on the way to it is
a directory. -/
def Path.location (workingDirectory : Location) (p : Path) : Location :=
  (FileTree.pathNames p).foldl Location.follow (if p.isAbsolute then [] else workingDirectory)

namespace FileTree

/-- The tree lets a path on through a name. -/
def Enters (t : FileTree) (here : Location) (name : String) : Prop :=
  name = "." ∨ name = ".." ∨
    name.utf8ByteSize ≤ maxNameBytes ∧ t.find? (here ++ [name]) = some .directory

theorem walk_cons_eq_ok_iff {t : FileTree} {here there : Location} {name : String}
    {names : List String} :
    t.walk here (name :: names) = .ok there ↔
      t.Enters here name ∧ t.walk (Location.follow here name) names = .ok there := by
  rw [walk, Enters, Location.follow]
  by_cases hdot : name = "."
  · rw [if_pos hdot, if_pos hdot]
    exact ⟨fun h => ⟨.inl hdot, h⟩, fun h => h.2⟩
  rw [if_neg hdot, if_neg hdot]
  by_cases hup : name = ".."
  · rw [if_pos hup, if_pos hup]
    exact ⟨fun h => ⟨.inr (.inl hup), h⟩, fun h => h.2⟩
  rw [if_neg hup, if_neg hup]
  by_cases hlong : name.utf8ByteSize > maxNameBytes
  · simp [hdot, hup, hlong, Nat.not_le.mpr hlong]
  rw [if_neg hlong]
  cases hnode : t.find? (here ++ [name]) with
  | none => simp [hdot, hup]
  | some node =>
    cases node with
    | file contents => simp [hdot, hup]
    | directory => simp [hdot, hup, Nat.le_of_not_gt hlong]

/-- Names that a tree lets through lead where they say. -/
theorem location_of_walk {t : FileTree} {here there : Location} {names : List String}
    (h : t.walk here names = .ok there) : there = names.foldl Location.follow here := by
  induction names generalizing here with
  | nil => exact (Except.ok.inj h).symm
  | cons name names ih =>
    obtain ⟨-, hrest⟩ := walk_cons_eq_ok_iff.mp h
    rw [List.foldl_cons]
    exact ih hrest

/-- What the last name of a path makes of the directory that the other names lead to. -/
def slotIn (p : Path) (directory : Location) : Except FileCause Slot :=
  match (pathNames p).getLast? with
  | none => .ok ⟨directory, none, true⟩
  | some name =>
    if name = "." then .ok ⟨directory, none, true⟩
    else if name = ".." then .ok ⟨directory.dropLast, none, true⟩
    else if name.utf8ByteSize > maxNameBytes then .error .nameTooLong
    else .ok ⟨directory, some name, p.endsWithSlash⟩

/-- A path leads somewhere if it can be asked for, all names but the last lead to a directory, and
the last name will do. -/
theorem slot_eq_ok_iff {t : FileTree} {workingDirectory : Location} {p : Path} {s : Slot} :
    t.slot workingDirectory p = .ok s ↔
      (p.text.toList.contains (Char.ofNat 0) = false ∧ p.text.isEmpty = false ∧
        p.text.utf8ByteSize < maxPathBytes) ∧
      ∃ directory,
        t.walk (if p.isAbsolute then [] else workingDirectory) (pathNames p).dropLast =
          .ok directory ∧ slotIn p directory = .ok s := by
  have hslot : t.slot workingDirectory p =
      if p.text.toList.contains (Char.ofNat 0) then .error .nullInName
      else if p.text.isEmpty then .error .notFound
      else if p.text.utf8ByteSize ≥ maxPathBytes then .error .nameTooLong
      else
        (t.walk (if p.isAbsolute then [] else workingDirectory) (pathNames p).dropLast).bind
          (slotIn p) := by
    unfold slot
    simp only
    cases t.walk (if p.isAbsolute then [] else workingDirectory) (pathNames p).dropLast <;> rfl
  rw [hslot]
  constructor
  · intro h
    split at h
    · cases h
    next hnull =>
    split at h
    · cases h
    next hempty =>
    split at h
    · cases h
    next hlong =>
    refine ⟨⟨by simpa using hnull, by simpa using hempty, Nat.lt_of_not_ge hlong⟩, ?_⟩
    cases hwalk : t.walk (if p.isAbsolute then [] else workingDirectory)
        (pathNames p).dropLast with
    | error cause =>
      rw [hwalk] at h
      cases h
    | ok directory =>
      rw [hwalk] at h
      exact ⟨directory, rfl, h⟩
  · rintro ⟨⟨hnull, hempty, hlong⟩, directory, hwalk, hlast⟩
    rw [hnull, hempty, hwalk, if_neg (Nat.not_le.mpr hlong)]
    exact hlast

theorem location_of_slotIn {p : Path} {directory : Location} {s : Slot}
    (h : slotIn p directory = .ok s) :
    s.location = (pathNames p).getLast?.toList.foldl Location.follow directory := by
  unfold slotIn at h
  split at h
  · next hlast =>
    rw [hlast, ← Except.ok.inj h]
    rfl
  · next name hlast =>
    rw [hlast, Option.toList_some, List.foldl_cons, List.foldl_nil, Location.follow]
    split at h
    · next hdot =>
      rw [if_pos hdot, ← Except.ok.inj h]
      rfl
    · next hdot =>
      rw [if_neg hdot]
      split at h
      · next hup =>
        rw [if_pos hup, ← Except.ok.inj h]
        rfl
      · next hup =>
        rw [if_neg hup]
        split at h
        · cases h
        · rw [← Except.ok.inj h]
          rfl

/-- A path that a tree lets through comes to the location that it denotes. -/
theorem location_of_slot {t : FileTree} {workingDirectory : Location} {p : Path} {s : Slot}
    (h : t.slot workingDirectory p = .ok s) : s.location = p.location workingDirectory := by
  obtain ⟨-, directory, hwalk, hlast⟩ := slot_eq_ok_iff.mp h
  have hnames : pathNames p = (pathNames p).dropLast ++ (pathNames p).getLast?.toList := by
    cases hnil : (pathNames p).getLast? with
    | none =>
      rw [List.getLast?_eq_none_iff] at hnil
      rw [hnil]
      rfl
    | some name =>
      obtain ⟨before, hbefore⟩ := List.getLast?_eq_some_iff.mp hnil
      rw [hbefore, List.dropLast_concat]
      rfl
  rw [location_of_slotIn hlast, location_of_walk hwalk, ← List.foldl_append, ← hnames]
  rfl

end FileTree

end EntityScaffold
