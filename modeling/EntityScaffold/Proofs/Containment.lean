import EntityScaffold.Proofs.Collisions

/-!
# Artifacts and the output directory

The path of an artifact is joined from the output directory, the parts of the package and the name
of the file. The parts are names that were cut at dots, so none of them leads upwards. A part that
starts with a slash is a path from the root, however, and whatever it is joined to is dropped. So
the artifacts of an entity lie below the output directory if no part of its canonical name starts
with a slash, and otherwise only if the paths from the root happen to lead there
(`artifacts_below_output_iff`).
-/

namespace EntityScaffold

open Mapping (Entity Placed Resource)
open Text

/-! ## Paths inside a directory -/

/-- A component of a path. -/
inductive Component where
  | root
  /-- A `.` with which a relative path starts; any other `.` adds no component. -/
  | current
  | parent
  | normal (name : String)
  deriving DecidableEq, Repr

namespace Path

/-- The component in front of all names, if there is one. -/
def start? (p : Path) : Option Component :=
  if p.isAbsolute then some .root
  else if p.pieces.head? = some ['.'] then some .current
  else none

/-- The component that a name stands for. -/
def componentOf (name : String) : Component :=
  if name = ".." then .parent else .normal name

/-- The components of a path, in order. -/
def components (p : Path) : List Component :=
  p.start?.toList ++ p.names.map componentOf

/-- The path is that of the directory followed only by further normal components, at least one. -/
def LiesBelow (p directory : Path) : Prop :=
  ∃ below : List String, below ≠ [] ∧ p.components = directory.components ++ below.map .normal

/-- The path is relative and has normal components only. -/
structure IsPlain (p : Path) : Prop where
  start?_eq : p.start? = none
  not_upwards : ".." ∉ p.names

variable {p q directory : Path}

theorem isAbsolute_of_start? (h : p.start? = none) : p.isAbsolute = false := by
  unfold start? at h
  split at h
  · cases h
  · next habsolute => simpa using habsolute

theorem root_mem_components_iff : .root ∈ p.components ↔ p.isAbsolute = true := by
  have hnames : .root ∉ p.names.map componentOf := by
    intro h
    obtain ⟨name, -, hname⟩ := List.mem_map.mp h
    unfold componentOf at hname
    split at hname <;> cases hname
  unfold components start?
  rw [List.mem_append, or_iff_left hnames, Option.mem_toList]
  by_cases habsolute : p.isAbsolute
  · simp [habsolute]
  · rw [if_neg habsolute]
    split <;> simp [habsolute]

/-- Only an absolute directory has absolute paths below it. -/
theorem LiesBelow.isAbsolute (h : p.LiesBelow directory) (hp : p.isAbsolute = true) :
    directory.isAbsolute = true := by
  obtain ⟨below, -, hcomponents⟩ := h
  rw [← root_mem_components_iff, hcomponents] at hp
  rcases List.mem_append.mp hp with hdirectory | hbelow
  · exact root_mem_components_iff.mp hdirectory
  · obtain ⟨name, -, hname⟩ := List.mem_map.mp hbelow
    cases hname

theorem isAbsolute_join_eq (p q : Path) :
    (p.join q).isAbsolute = (p.isAbsolute || q.isAbsolute) := by
  cases hq : q.isAbsolute with
  | false => rw [isAbsolute_join p hq, Bool.or_false]
  | true => simp [join, hq]

theorem join_of_isAbsolute (p : Path) (hq : q.isAbsolute = true) : p.join q = q := by
  simp [join, hq]

/-- What follows a path without a start of its own leaves the start as it is. -/
theorem start?_join (p : Path) (hq : q.start? = none) : (p.join q).start? = p.start? := by
  have hrelative := isAbsolute_of_start? hq
  by_cases hp : p.text.isEmpty
  · have hnil : p = ⟨""⟩ := by
      cases p
      simpa using hp
    have hjoin : p.join q = q := by simp [join, hp]
    rw [hjoin, hq, hnil]
    rfl
  · -- the first piece of a joined path is the first piece of the path in front
    have hfirst : (p.join q).pieces.head? = p.pieces.head? := by
      have hne (s : List Char) : (split '/' s).head?.isSome := by
        simpa using split_ne_nil '/' s
      have happend {s : List Char} {t : List (List Char)} :
          (split '/' s ++ t).head? = (split '/' s).head? := by
        rw [List.head?_append, Option.or_of_isSome (hne s)]
      unfold join pieces
      rw [hrelative, Bool.false_or, if_neg hp]
      split
      · next hslash =>
        have hlast : p.text.toList.getLast? = some '/' := by simpa [endsWithSlash] using hslash
        obtain ⟨before, hbefore⟩ := List.getLast?_eq_some_iff.mp hlast
        rw [String.toList_append, hbefore, List.append_assoc, List.singleton_append, split_append,
          split_append, happend, happend]
      · have htext : (p.text ++ "/" ++ q.text).toList = p.text.toList ++ '/' :: q.text.toList := by
          simp
        rw [htext, split_append, happend]
    unfold start?
    rw [isAbsolute_join p hrelative, hfirst]

theorem components_join (p : Path) (hq : q.start? = none) :
    (p.join q).components = p.components ++ q.components := by
  unfold components
  rw [start?_join p hq, names_join p (isAbsolute_of_start? hq), hq, List.map_append]
  simp

namespace IsPlain

theorem components_eq (h : p.IsPlain) : p.components = p.names.map .normal := by
  unfold components
  rw [h.start?_eq, Option.toList_none, List.nil_append]
  refine List.map_congr_left fun name hname => ?_
  have hne : name ≠ ".." := fun heq => h.not_upwards (heq ▸ hname)
  exact if_neg hne

theorem join (hp : p.IsPlain) (hq : q.IsPlain) : (p.join q).IsPlain where
  start?_eq := (start?_join p hq.start?_eq).trans hp.start?_eq
  not_upwards := by
    rw [names_join p (isAbsolute_of_start? hq.start?_eq), List.mem_append]
    exact not_or.mpr ⟨hp.not_upwards, hq.not_upwards⟩

/-- What is taken from a directory by a plain path lies below it. -/
theorem liesBelow_join (hq : q.IsPlain) (hne : q.names ≠ []) (directory : Path) :
    (directory.join q).LiesBelow directory :=
  ⟨q.names, hne, by rw [components_join directory hq.start?_eq, hq.components_eq]⟩

theorem foldl_enter {parts : List String} (hparts : ∀ part ∈ parts, (⟨part⟩ : Path).IsPlain)
    {start : Path} (hstart : start.IsPlain) : (parts.foldl enter start).IsPlain := by
  induction parts generalizing start with
  | nil => exact hstart
  | cons part parts ih =>
    obtain ⟨hpart, hrest⟩ := List.forall_mem_cons.mp hparts
    exact ih hrest (hstart.join hpart)

end IsPlain

theorem isPlain_empty : (⟨""⟩ : Path).IsPlain :=
  ⟨rfl, List.not_mem_nil⟩

/-- A relative path is plain if no piece of it is made of dots. -/
theorem isPlain_of_pieces (hrelative : p.isAbsolute = false)
    (hpieces : ∀ piece ∈ p.pieces, piece ≠ ['.'] ∧ piece ≠ ['.', '.']) : p.IsPlain where
  start?_eq := by
    have hfirst : p.pieces.head? ≠ some ['.'] := fun hhead =>
      (hpieces _ (List.mem_of_mem_head? hhead)).1 rfl
    unfold start?
    rw [if_neg (by simp [hrelative]), if_neg hfirst]
  not_upwards := by
    intro hname
    obtain ⟨piece, hpiece, htext⟩ := List.mem_map.mp hname
    refine (hpieces piece (List.mem_filter.mp hpiece).1).2 ?_
    have := congrArg String.toList htext
    rwa [String.toList_ofList] at this

theorem isAbsolute_foldl_enter (parts : List String) (start : Path) :
    (parts.foldl enter start).isAbsolute =
      (start.isAbsolute || parts.any fun part => (⟨part⟩ : Path).isAbsolute) := by
  induction parts generalizing start with
  | nil => exact (Bool.or_false _).symm
  | cons part parts ih =>
    rw [List.foldl_cons, ih, enter, isAbsolute_join_eq, List.any_cons, Bool.or_assoc]

end Path

/-! ## Parts of names -/

/-- A text without separators only makes the last piece longer. -/
theorem Text.split_append_of_not_mem {sep : Char} {t : List Char} (ht : sep ∉ t) (s : List Char) :
    ∃ before last, split sep s = before ++ [last] ∧ split sep (s ++ t) = before ++ [last ++ t] := by
  induction s with
  | nil => exact ⟨[], [], rfl, split_of_not_mem ht⟩
  | cons c cs ih =>
    obtain ⟨before, last, hs, hst⟩ := ih
    rw [List.cons_append, split, split]
    by_cases hc : c = sep
    · rw [if_pos hc, if_pos hc, hs, hst]
      exact ⟨[] :: before, last, rfl, rfl⟩
    · rw [if_neg hc, if_neg hc, hs, hst]
      cases before with
      | nil => exact ⟨[], c :: last, rfl, rfl⟩
      | cons first before => exact ⟨(c :: first) :: before, last, rfl, rfl⟩

namespace Path

theorem isPlain_of_dot_free {text : String} (hdot : '.' ∉ text.toList)
    (hrelative : (⟨text⟩ : Path).isAbsolute = false) : (⟨text⟩ : Path).IsPlain := by
  refine isPlain_of_pieces hrelative fun piece hpiece => ?_
  have hfree : '.' ∉ piece := fun h => hdot (mem_of_mem_split hpiece h)
  constructor <;> rintro rfl <;> exact hfree List.mem_cons_self

/-- The file of a class is plain, and it is a component itself, even if the class has no name. -/
theorem isPlain_file {className : String} (hdot : '.' ∉ className.toList)
    (hrelative : (⟨className ++ ".java"⟩ : Path).isAbsolute = false) :
    (⟨className ++ ".java"⟩ : Path).IsPlain ∧ (⟨className ++ ".java"⟩ : Path).names ≠ [] := by
  have hsuffix : '/' ∉ ".java".toList := by decide
  obtain ⟨before, last, hsplit, hfile⟩ := split_append_of_not_mem hsuffix className.toList
  have hpieces : (⟨className ++ ".java"⟩ : Path).pieces = before ++ [last ++ ".java".toList] := by
    rw [pieces, String.toList_append, hfile]
  have hlong {short : List Char} (h : short.length < 5) : last ++ ".java".toList ≠ short := by
    intro heq
    rw [← heq, List.length_append] at h
    have : ".java".toList.length = 5 := rfl
    omega
  constructor
  · refine isPlain_of_pieces hrelative fun piece hpiece => ?_
    rw [hpieces] at hpiece
    rcases List.mem_append.mp hpiece with hbefore | hlast
    · have hmem : piece ∈ split '/' className.toList := by
        rw [hsplit]
        exact List.mem_append_left _ hbefore
      have hfree : '.' ∉ piece := fun h => hdot (mem_of_mem_split hmem h)
      constructor <;> rintro rfl <;> exact hfree List.mem_cons_self
    · rw [List.mem_singleton.mp hlast]
      exact ⟨hlong (by decide), hlong (by decide)⟩
  · have hidle : isIdle (last ++ ".java".toList) = false := by
      unfold isIdle
      rw [Bool.or_eq_false_iff]
      exact ⟨by simp, beq_false_of_ne (hlong (by decide))⟩
    rw [names, hpieces, List.filter_append, List.filter_cons_of_pos (by rw [hidle]; rfl)]
    simp

end Path

/-! ## Artifacts -/

namespace Artifact

variable {a : Artifact}

theorem isAbsolute_relativePath (a : Artifact) :
    a.relativePath.isAbsolute =
      ((packageDirectories a.package).any (fun part => (⟨part⟩ : Path).isAbsolute) ||
        (⟨a.className ++ ".java"⟩ : Path).isAbsolute) := by
  rw [relativePath_eq_ofParts, Path.ofParts, Path.enter, Path.isAbsolute_join_eq,
    Path.isAbsolute_foldl_enter]
  rfl

/-- Nothing else than a slash at the start of a part leads out of the output directory. -/
theorem isPlain_relativePath (hdot : '.' ∉ a.className.toList)
    (hrelative : a.relativePath.isAbsolute = false) :
    a.relativePath.IsPlain ∧ a.relativePath.names ≠ [] := by
  rw [isAbsolute_relativePath, Bool.or_eq_false_iff, List.any_eq_false] at hrelative
  obtain ⟨hdirectories, hfile⟩ := hrelative
  obtain ⟨hplain, hne⟩ := Path.isPlain_file hdot hfile
  have hdirectory : ((packageDirectories a.package).foldl Path.enter ⟨""⟩).IsPlain := by
    refine Path.IsPlain.foldl_enter (fun part hpart => ?_) Path.isPlain_empty
    refine Path.isPlain_of_dot_free ?_ (by simpa using hdirectories part hpart)
    obtain ⟨piece, hpiece, rfl⟩ := List.mem_map.mp hpart
    rw [String.toList_ofList]
    exact not_mem_of_mem_split (List.mem_filter.mp hpiece).1
  rw [relativePath_eq_ofParts, Path.ofParts, Path.enter]
  refine ⟨hdirectory.join hplain, ?_⟩
  rw [Path.names_join _ hfile]
  exact fun hnil => hne (List.append_eq_nil_iff.mp hnil).2

theorem liesBelow_pathBelow_iff (hdot : '.' ∉ a.className.toList) (output : Path) :
    (a.pathBelow output).LiesBelow output ↔
      a.relativePath.isAbsolute = false ∨ a.relativePath.LiesBelow output := by
  unfold pathBelow
  cases habsolute : a.relativePath.isAbsolute with
  | true => simp [Path.join_of_isAbsolute output habsolute]
  | false =>
    obtain ⟨hplain, hne⟩ := isPlain_relativePath hdot habsolute
    simp [hplain.liesBelow_join hne output]

end Artifact

/-! ## Artifacts of entities -/

/-- The parts of a name are those of its package and the simple name. -/
theorem Java.TypeName.forall_parts_iff (t : Java.TypeName) {P : List Char → Prop} (hnil : P []) :
    (∀ part ∈ split '.' t.qualified.toList, P part) ↔
      (∀ part ∈ split '.' (t.package?.getD "").toList, P part) ∧ P t.simple.toList := by
  unfold package? simple
  cases hcut : cutLast '.' t.qualified.toList with
  | none =>
    have hparts := split_of_not_mem (cutLast_eq_none_iff.mp hcut)
    simp [hparts, split, hnil]
  | some parts =>
    obtain ⟨before, after⟩ := parts
    obtain ⟨hqualified, hafter⟩ := cutLast_eq_some_iff.mp hcut
    rw [hqualified, split_append, split_of_not_mem hafter, List.forall_mem_append,
      List.forall_mem_singleton]
    simp

theorem ArtifactKind.dot_not_mem_className {className : String} (h : '.' ∉ className.toList)
    (kind : ArtifactKind) : '.' ∉ (kind.className className).toList := by
  cases kind <;> simpa [ArtifactKind.className] using h

theorem isAbsolute_file_iff (className : String) (kind : ArtifactKind) :
    (⟨kind.className className ++ ".java"⟩ : Path).isAbsolute = true ↔
      (kind = .concrete ∨ kind = .access) ∧ className.toList.head? = some '/' := by
  unfold Path.isAbsolute
  cases hname : className.toList <;> cases kind <;> simp [ArtifactKind.className, hname]

/-- The subpackage of a kind leads nowhere else. -/
theorem any_isAbsolute_packageDirectories_iff (package : String) (kind : ArtifactKind) :
    (packageDirectories (kind.package package)).any (fun part => (⟨part⟩ : Path).isAbsolute) =
        true ↔
      ∃ part ∈ split '.' package.toList, part.head? = some '/' := by
  have hsub : (Entity.subdirectories kind).any (fun part => (⟨part⟩ : Path).isAbsolute) =
      false := by cases kind <;> decide
  rw [Entity.packageDirectories_package, List.any_append, hsub, Bool.or_false,
    packageDirectories, List.any_map, List.any_filter, List.any_eq_true]
  refine exists_congr fun part => and_congr_right fun _ => ?_
  cases part <;> simp [Path.isAbsolute]

namespace Scaffold

/-- A part of the package that starts with a slash takes all four artifacts with it. -/
theorem isAbsolute_of_package {s : Scaffold} {part : List Char}
    (hpart : part ∈ split '.' s.package.toList) (hslash : part.head? = some '/')
    {header? : Option String} {a : Artifact} (ha : a ∈ s.artifacts header?) :
    a.relativePath.isAbsolute = true := by
  obtain ⟨kind, -, rfl⟩ := List.mem_map.mp ha
  rw [Artifact.isAbsolute_relativePath, Bool.or_eq_true]
  exact .inl ((any_isAbsolute_packageDirectories_iff s.package kind).mpr ⟨part, hpart, hslash⟩)

/-- The paths of all four artifacts are relative if no part of the name starts with a slash. The
base classes do not see the class name, as they put a text in front of it, but the others do. -/
theorem forall_isAbsolute_eq_false_iff (s : Scaffold) (header? : Option String) :
    (∀ a ∈ s.artifacts header?, a.relativePath.isAbsolute = false) ↔
      ∀ part ∈ split '.' s.entity.type.qualified.toList, part.head? ≠ some '/' := by
  rw [s.entity.type.forall_parts_iff (by simp)]
  constructor
  · intro h
    refine ⟨fun part hpart hslash => ?_, fun hslash => ?_⟩
    · have hbase : s.artifact header? .base ∈ s.artifacts header? := List.mem_cons_self
      exact absurd ((h _ hbase).symm.trans (isAbsolute_of_package hpart hslash hbase))
        Bool.false_ne_true
    · have hconcrete := h (s.artifact header? .concrete)
        (List.mem_map_of_mem (ArtifactKind.mem_all .concrete))
      rw [Artifact.isAbsolute_relativePath, Bool.or_eq_false_iff] at hconcrete
      have hfile := (isAbsolute_file_iff s.className .concrete).mpr ⟨.inl rfl, hslash⟩
      exact absurd (hconcrete.2.symm.trans hfile) Bool.false_ne_true
  · rintro ⟨hparts, hname⟩ a ha
    obtain ⟨kind, -, rfl⟩ := List.mem_map.mp ha
    rw [Artifact.isAbsolute_relativePath, ← Bool.not_eq_true, Bool.or_eq_true]
    rintro (hdirectory | hfile)
    · obtain ⟨part, hpart, hslash⟩ :=
        (any_isAbsolute_packageDirectories_iff s.package kind).mp hdirectory
      exact hparts part hpart hslash
    · exact hname ((isAbsolute_file_iff s.className kind).mp hfile).2

/-- The artifacts of an entity lie below the output directory exactly if no part of its canonical
name starts with a slash, or else the output directory is absolute and the absolute paths that such
parts lead to lie below it as they are. -/
theorem artifacts_below_output_iff (s : Scaffold) (header? : Option String) (output : Path) :
    (∀ a ∈ s.artifacts header?, (a.pathBelow output).LiesBelow output) ↔
      (∀ part ∈ split '.' s.entity.type.qualified.toList, part.head? ≠ some '/') ∨
        output.isAbsolute = true ∧ ∀ a ∈ s.artifacts header?,
          a.relativePath.isAbsolute = true → a.relativePath.LiesBelow output := by
  have hbelow : ∀ a ∈ s.artifacts header?, (a.pathBelow output).LiesBelow output ↔
      a.relativePath.isAbsolute = false ∨ a.relativePath.LiesBelow output := by
    intro a ha
    obtain ⟨kind, -, rfl⟩ := List.mem_map.mp ha
    exact Artifact.liesBelow_pathBelow_iff
      (ArtifactKind.dot_not_mem_className s.entity.type.dot_not_mem_simple kind) output
  rw [← forall_isAbsolute_eq_false_iff s header?]
  constructor
  · intro h
    have hlands : ∀ a ∈ s.artifacts header?, a.relativePath.isAbsolute = true →
        a.relativePath.LiesBelow output := fun a ha habsolute =>
      ((hbelow a ha).mp (h a ha)).resolve_left (by simp [habsolute])
    by_cases hsome : ∃ a ∈ s.artifacts header?, a.relativePath.isAbsolute = true
    · obtain ⟨a, ha, habsolute⟩ := hsome
      exact .inr ⟨(hlands a ha habsolute).isAbsolute habsolute, hlands⟩
    · exact .inl fun a ha => Bool.eq_false_iff.mpr fun habsolute => hsome ⟨a, ha, habsolute⟩
  · rintro (hrelative | ⟨-, hlands⟩) a ha
    · exact (hbelow a ha).mpr (.inl (hrelative a ha))
    · rw [hbelow a ha]
      cases habsolute : a.relativePath.isAbsolute with
      | false => exact .inl rfl
      | true => exact .inr (hlands a ha habsolute)

/-! ### A package that starts at the root -/

/-- The package in front of a simple name. -/
theorem package_of_type_eq {s : Scaffold} {package name : String}
    (htype : s.entity.type = ⟨Java.qualify package name⟩) (hpackage : package ≠ "")
    (hname : '.' ∉ name.toList) : s.package = package := by
  have hcut : cutLast '.' (Java.qualify package name).toList =
      some (package.toList, name.toList) := by
    rw [cutLast_eq_some_iff]
    refine ⟨?_, hname⟩
    simp [Java.qualify, hpackage]
  rw [Scaffold.package, htype, Java.TypeName.package?, hcut]
  simp

/-- A package whose only part is a path from the root. The part is longer than what a file system
takes for a name. -/
def rootedPackage : String :=
  "/" ++ String.ofList (List.replicate 256 'a')

/-- A mapping document of one class in this package. -/
def rootedDocument : Xml.Element :=
  .mk "hibernate-mapping" [⟨none, "package", rootedPackage⟩]
    [.mk "class" [⟨none, "name", "Room"⟩] []]

/-- The document can be read, but no artifact of its class lies below the output directory. -/
theorem artifacts_escape_rooted :
    ∃ r p, (Resource.read "Room.hbm.xml" rootedDocument).outcome = .ok r ∧ p ∈ r.placed ∧
      ∀ (h : Hierarchy) (shown : NameSet) (header? : Option String),
        ∀ a ∈ (ofPlaced h shown p).artifacts header?,
          ¬ (a.pathBelow ⟨"out"⟩).LiesBelow ⟨"out"⟩ := by
  let e := bareClass "Room" (Java.qualify rootedPackage "Room")
  refine ⟨⟨"Room.hbm.xml", some rootedPackage, [e]⟩, ⟨e, []⟩, rfl, List.mem_cons_self,
    fun h shown header? a ha hbelow => ?_⟩
  have htext : rootedPackage.toList = '/' :: List.replicate 256 'a' := by
    have hslash : "/".toList = ['/'] := rfl
    rw [rootedPackage, String.toList_append, hslash, List.singleton_append, String.toList_ofList]
  have hne : rootedPackage ≠ "" := by
    intro hempty
    rw [hempty] at htext
    cases htext
  have hdot : '.' ∉ rootedPackage.toList := by
    rw [htext, List.mem_cons, List.mem_replicate]
    decide
  have htype : (ofPlaced h shown ⟨e, []⟩).entity.type = ⟨Java.qualify rootedPackage "Room"⟩ := rfl
  have hpart : rootedPackage.toList ∈ split '.' (ofPlaced h shown ⟨e, []⟩).package.toList := by
    rw [package_of_type_eq htype hne (by decide), split_of_not_mem hdot]
    exact List.mem_cons_self
  have habsolute := isAbsolute_of_package hpart (by rw [htext, List.head?_cons]) ha
  rw [Artifact.pathBelow, Path.join_of_isAbsolute _ habsolute] at hbelow
  exact absurd (hbelow.isAbsolute habsolute) (by decide)

end Scaffold

end EntityScaffold
