import EntityScaffold.Settings
import EntityScaffold.Proofs.Containment
import EntityScaffold.Proofs.PathAncestors

/-!
# The marker directory

Without a source root, generated sources go next to the marker directory. The way up from the
configuration document drops one name after the other from its absolute path
(`Path.names_parent?`), so the first directory called like the marker is the last name in the path
that is the marker (`marker?_of_last`), be it from the settings, from the working directory or the
name of the document itself. Its parent has the components in front of that name, and nothing
below the marker matters (`outputDirectory_beside_last_marker`).
-/

namespace EntityScaffold

namespace Path

open Text

variable {p q workingDirectory : Path} {names : List String}

/-! ## Absolute forms -/

/-- The names of the absolute form: those of the working directory come first, unless the path
starts at the root. -/
def namesFrom (workingDirectory p : Path) : List String :=
  (if p.isAbsolute then [] else workingDirectory.names) ++ p.names

/-- The components of the absolute form. -/
def componentsFrom (workingDirectory p : Path) : List Component :=
  .root :: (namesFrom workingDirectory p).map componentOf

/-- The path starts with two slashes and not with three, and keeps both. -/
def StartsWithTwoSlashes (p : Path) : Prop :=
  "//".toList <+: p.text.toList ∧ ¬ "///".toList <+: p.text.toList

instance : DecidablePred StartsWithTwoSlashes := fun p =>
  inferInstanceAs (Decidable ("//".toList <+: p.text.toList ∧ ¬ "///".toList <+: p.text.toList))

theorem componentOf_eq_normal_iff {name other : String} :
    componentOf other = .normal name ↔ other = name ∧ name ≠ ".." := by
  unfold componentOf
  split
  · next hup =>
    exact ⟨nofun, fun h => absurd (h.1.symm.trans hup) h.2⟩
  · next hup =>
    rw [Component.normal.injEq]
    exact ⟨fun h => ⟨h, h ▸ hup⟩, fun h => h.1⟩

theorem components_of_isAbsolute (h : p.isAbsolute = true) :
    p.components = .root :: p.names.map componentOf := by
  unfold components start?
  rw [if_pos h]
  rfl

theorem names_foldl_join (h : ∀ name ∈ names, IsName name) (start : Path) :
    let whole := names.foldl (fun path name => path.join ⟨name⟩) start
    whole.isAbsolute = start.isAbsolute ∧ whole.names = start.names ++ names := by
  have htrail := trail_foldl_enter names start
  rw [foldl_enter_of_slash_free h] at htrail
  exact ⟨congrArg Trail.fromRoot htrail, congrArg Trail.names htrail⟩

theorem foldl_join_rooted {before : List String} (hbefore : ∀ name ∈ before, IsName name)
    (h : ∀ name ∈ names, IsName name) :
    names.foldl (fun path name => path.join ⟨name⟩) (rooted before) = rooted (before ++ names) := by
  induction names generalizing before with
  | nil => rw [List.append_nil, List.foldl_nil]
  | cons name names ih =>
    obtain ⟨hname, hrest⟩ := List.forall_mem_cons.mp h
    have hnext : ∀ other ∈ before ++ [name], IsName other :=
      List.forall_mem_append.mpr ⟨hbefore, List.forall_mem_singleton.mpr hname⟩
    rw [List.foldl_cons, join_rooted hbefore hname, ih hnext hrest, List.append_assoc]
    rfl

/-- A slash at the end is idle. -/
theorem isTidy_rooted_join_empty (h : ∀ name ∈ names, IsName name) :
    ((rooted names).join ⟨""⟩).IsTidy := by
  rcases eq_or_ne names [] with rfl | hne
  · exact isTidy_rooted (List.forall_mem_nil _)
  · have htext : (rooted names).text.isEmpty = false := by simp [rooted]
    have hpieces : ((rooted names).join ⟨""⟩).pieces = [] :: (names.map String.toList ++ [[]]) := by
      rw [← List.cons_append, ← pieces_rooted hne h]
      unfold join pieces
      rw [htext, endsWithSlash_rooted hne h]
      simp [isAbsolute, split_append, split]
    refine ⟨[[]], List.forall_mem_singleton.mpr rfl, ?_⟩
    rw [names_join _ rfl, names_rooted h, hpieces]
    simp [Path.names, pieces, split, isIdle]

/-- The names of a path are taken from the working directory or the root, and a slash at the end is
put there again. -/
theorem exists_start_absolute? (hworking : workingDirectory.isAbsolute = true) (hp : p.text ≠ "") :
    ∃ start : Path, start.isAbsolute = true ∧
      start.names = (if p.isAbsolute then [] else workingDirectory.names) ∧
      (workingDirectory = rooted workingDirectory.names → ¬ p.StartsWithTwoSlashes →
        start = rooted start.names) ∧
      absolute? workingDirectory p =
        let whole := p.names.foldl (fun path name => path.join ⟨name⟩) start
        some (if p.endsWithSlash then whole.join ⟨""⟩ else whole) := by
  have hempty : p.text.isEmpty = false := by simpa using hp
  refine ⟨if !p.isAbsolute then workingDirectory
    else if "//".toList.isPrefixOf p.text.toList && !"///".toList.isPrefixOf p.text.toList then
      ⟨"//"⟩
    else ⟨"/"⟩, ?_, ?_, ?_, ?_⟩
  · split
    · exact hworking
    · split <;> rfl
  · split
    · next hrelative => rw [if_neg (by simpa using hrelative)]
    · next habsolute =>
      have habsolute : p.isAbsolute = true := by simpa using habsolute
      rw [if_pos habsolute]
      split <;> rfl
  · intro hrooted htwo
    split
    · exact hrooted
    · split
      · next hslashes =>
        obtain ⟨htwo', hthree⟩ := Bool.and_eq_true_iff.mp hslashes
        refine absurd ⟨List.isPrefixOf_iff_prefix.mp htwo', fun h => ?_⟩ htwo
        rw [List.isPrefixOf_iff_prefix.mpr h] at hthree
        cases hthree
      · rfl
  · unfold absolute?
    rw [hempty, if_neg Bool.false_ne_true]

/-- Every path but the empty one has an absolute form. -/
theorem absolute?_eq_some (hworking : workingDirectory.isAbsolute = true) (hp : p.text ≠ "") :
    ∃ whole, absolute? workingDirectory p = some whole ∧ whole.isAbsolute = true ∧
      whole.names = namesFrom workingDirectory p ∧
      (workingDirectory = rooted workingDirectory.names → ¬ p.StartsWithTwoSlashes →
        whole.IsTidy) := by
  obtain ⟨start, hstart, hnames, hrooted, habsolute⟩ := exists_start_absolute? hworking hp
  have hproper : ∀ name ∈ p.names, IsName name := fun name => isName_of_mem_names
  obtain ⟨hwhole, hfold⟩ := names_foldl_join hproper start
  refine ⟨_, habsolute, ?_, ?_, fun hworking htwo => ?_⟩
  · split
    · rw [isAbsolute_join _ rfl, hwhole, hstart]
    · rw [hwhole, hstart]
  · unfold namesFrom
    rw [← hnames, ← hfold]
    split
    · rw [names_join _ rfl]
      exact List.append_nil _
    · rfl
  · have hstarts : ∀ name ∈ start.names, IsName name := fun name => isName_of_mem_names
    have hall : ∀ name ∈ start.names ++ p.names, IsName name :=
      List.forall_mem_append.mpr ⟨hstarts, hproper⟩
    rw [hrooted hworking htwo, foldl_join_rooted hstarts hproper]
    split
    · exact isTidy_rooted_join_empty hall
    · exact isTidy_rooted hall

/-- A name among the components is one that does not lead upwards. -/
theorem normal_mem_componentsFrom_iff {name : String} :
    .normal name ∈ componentsFrom workingDirectory p ↔
      name ∈ namesFrom workingDirectory p ∧ name ≠ ".." := by
  unfold componentsFrom
  rw [List.mem_cons, or_iff_right (by simp), List.mem_map]
  constructor
  · rintro ⟨other, hother, heq⟩
    obtain ⟨rfl, hup⟩ := componentOf_eq_normal_iff.mp heq
    exact ⟨hother, hup⟩
  · rintro ⟨hname, hup⟩
    exact ⟨name, hname, componentOf_eq_normal_iff.mpr ⟨rfl, hup⟩⟩

/-- The last component that is a given name splits the names. -/
theorem exists_namesFrom_eq {name : String} {before after : List Component}
    (h : componentsFrom workingDirectory p = before ++ .normal name :: after)
    (hafter : .normal name ∉ after) :
    ∃ above below, namesFrom workingDirectory p = above ++ name :: below ∧ name ∉ below ∧
      name ≠ ".." ∧ .root :: above.map componentOf = before := by
  cases before with
  | nil => cases h
  | cons first before =>
    obtain ⟨rfl, hnames⟩ := List.cons.inj h
    obtain ⟨above, more, hsplit, rfl, hmore⟩ := List.map_eq_append_iff.mp hnames
    obtain ⟨other, below, rfl, hother, rfl⟩ := List.map_eq_cons_iff.mp hmore
    obtain ⟨rfl, hup⟩ := componentOf_eq_normal_iff.mp hother
    refine ⟨above, below, hsplit, fun hbelow => hafter ?_, hup, rfl⟩
    exact List.mem_map.mpr ⟨other, hbelow, hother⟩

end Path

namespace Settings

open EntityScaffold.Path

variable {s : Settings} {p : Path}

/-! ## The way up -/

/-- The nearest marker on the way up is the last one among the names. -/
theorem marker?_of_last {before after : List String}
    (hp : p.names = before ++ s.markerName :: after) (hup : s.markerName ≠ "..")
    (hlast : s.markerName ∉ after) :
    ∃ marker ∈ p.ancestors, s.marker? p = some marker ∧
      marker.names = before ++ [s.markerName] := by
  induction p using ancestors.induct generalizing after with
  | case2 p hnone =>
    rw [names_eq_nil_of_parent? hnone] at hp
    simp at hp
  | case1 p above habove ih =>
    rw [marker?, ancestors_of_parent? habove]
    rcases List.eq_nil_or_concat' after with rfl | ⟨between, name, rfl⟩
    · -- the marker is the last name of all, so the path itself is called like it
      have hname : p.fileName? = some s.markerName :=
        fileName?_eq_some_iff.mpr ⟨by rw [hp, List.getLast?_concat], hup⟩
      exact ⟨p, List.mem_cons_self, List.find?_cons_of_pos (by rw [hname, beq_self_eq_true]), hp⟩
    · have hother : p.fileName? ≠ some s.markerName := by
        intro hname
        have hend := (fileName?_eq_some_iff.mp hname).1
        rw [hp, ← List.cons_append, ← List.append_assoc, List.getLast?_concat,
          Option.some.injEq] at hend
        exact hlast (List.mem_append_right between (hend ▸ List.mem_singleton_self name))
      have hdrop : above.names = before ++ s.markerName :: between := by
        rw [names_parent? habove, hp, ← List.cons_append, ← List.append_assoc,
          List.dropLast_concat]
      obtain ⟨marker, hmem, hfind, hnames⟩ :=
        ih hdrop fun h => hlast (List.mem_append_left [name] h)
      refine ⟨marker, List.mem_cons_of_mem p hmem, ?_, hnames⟩
      rw [List.find?_cons_of_neg (by simpa using hother)]
      exact hfind

/-- Without the marker among the names nothing on the way up is called like it. -/
theorem marker?_eq_none (h : s.markerName ∈ p.names → s.markerName = "..") :
    s.marker? p = none := by
  refine List.find?_eq_none.mpr fun q hq hname => ?_
  obtain ⟨hlast, hup⟩ := fileName?_eq_some_iff.mp (by simpa using hname)
  exact hup (h ((names_of_mem_ancestors hq).subset (List.mem_of_getLast? hlast)))

/-! ## The output directory -/

theorem outputDirectory_of_source?_eq_none (hsource : s.source? = none)
    (workingDirectory : Path) :
    let config := s.resourceRoot.join ⟨s.configName⟩
    s.outputDirectory workingDirectory =
      match (s.marker? ((absolute? workingDirectory config).getD config)).bind (·.parent?) with
      | some project => project.join ⟨s.outputName⟩
      | none => ⟨s.outputName⟩ := by
  unfold outputDirectory configPath resourceDirectory
  rw [hsource]
  rfl

/-- Sources go into the directory whose path is that of the last marker, with the name of the output
in place of the marker and of all that follows. The components of the configuration path are those
of its absolute form, where `..` stands for itself; only names can be the marker. Without a marker
the output is a directory of the working directory, and a source root is always the output. -/
theorem outputDirectory_beside_last_marker (s : Settings) (workingDirectory : Path)
    (hworking : workingDirectory.isAbsolute = true) :
    (∀ source, s.source? = some source → s.outputDirectory workingDirectory = source) ∧
      (s.source? = none →
        let config := s.resourceRoot.join ⟨s.configName⟩
        let components := componentsFrom workingDirectory config
        (∀ before after, config.text ≠ "" → components = before ++ .normal s.markerName :: after →
          .normal s.markerName ∉ after →
          ∃ project : Path, project.components = before ∧
            (workingDirectory = rooted workingDirectory.names → ¬ config.StartsWithTwoSlashes →
              project = rooted project.names) ∧
            s.outputDirectory workingDirectory = project.join ⟨s.outputName⟩) ∧
        (config.text = "" ∨ .normal s.markerName ∉ components →
          s.outputDirectory workingDirectory = ⟨s.outputName⟩)) := by
  refine ⟨fun source hsource => ?_, fun hsource => ?_⟩
  · rw [outputDirectory, hsource]
  intro config components
  rw [outputDirectory_of_source?_eq_none hsource]
  refine ⟨fun before after htext hcomponents hafter => ?_, fun hnone => ?_⟩
  · obtain ⟨above, below, hsplit, hbelow, hup, rfl⟩ := exists_namesFrom_eq hcomponents hafter
    obtain ⟨whole, hwhole, habsolute, hnames, htidy⟩ := absolute?_eq_some hworking htext
    obtain ⟨marker, hmem, hfound, hmarker⟩ := marker?_of_last (hnames.trans hsplit) hup hbelow
    obtain ⟨project, hproject⟩ : ∃ project, marker.parent? = some project := by
      refine Option.ne_none_iff_exists'.mp fun hnone => ?_
      have hnil := names_eq_nil_of_parent? hnone
      rw [hmarker] at hnil
      exact List.cons_ne_nil _ _ (List.append_eq_nil_iff.mp hnil).2
    refine ⟨project, ?_, fun hrooted htwo => ?_, ?_⟩
    · have hroot : project.isAbsolute = true := by
        rw [(pathNames_parent? hproject).1, (pathNames_of_mem_ancestors hmem).1, habsolute]
      rw [components_of_isAbsolute hroot, names_parent? hproject, hmarker, List.dropLast_concat]
    · exact eq_rooted_of_parent? (isTidy_of_mem_ancestors (htidy hrooted htwo) hmem) hproject
    · rw [hwhole, Option.getD_some, hfound, Option.bind_some, hproject]
  · have hmarker : s.marker? ((absolute? workingDirectory config).getD config) = none := by
      refine marker?_eq_none fun hmem => ?_
      by_cases htext : config.text = ""
      · have hempty : config = ⟨""⟩ := congrArg Path.mk htext
        rw [hempty] at hmem
        exact absurd hmem List.not_mem_nil
      · obtain ⟨whole, hwhole, -, hnames, -⟩ := absolute?_eq_some hworking htext
        rw [hwhole, Option.getD_some, hnames] at hmem
        by_contra hup
        exact hnone.resolve_left htext (normal_mem_componentsFrom_iff.mpr ⟨hmem, hup⟩)
    rw [hmarker, Option.bind_none]

/-- Of two markers the one that the settings lead to is nearer than that of the working directory,
and the way to it is kept. -/
theorem outputDirectory_beside_nearer_marker :
    let s : Settings := { resourceRoot := ⟨"..//WebContent/./classes/"⟩ }
    let workingDirectory : Path := ⟨"/work/WebContent/tools"⟩
    workingDirectory.isAbsolute = true ∧
      ∃ project : Path,
        project.components =
          [.root, .normal "work", .normal "WebContent", .normal "tools", .parent] ∧
        project = rooted project.names ∧
        s.outputDirectory workingDirectory = project.join ⟨"JavaSource"⟩ := by
  intro s workingDirectory
  have habsolute : workingDirectory.isAbsolute = true := by decide
  refine ⟨habsolute, ?_⟩
  obtain ⟨project, hcomponents, hrooted, houtput⟩ :=
    ((outputDirectory_beside_last_marker s workingDirectory habsolute).2 rfl).1
      [.root, .normal "work", .normal "WebContent", .normal "tools", .parent]
      [.normal "classes", .normal "hibernate.cfg.xml"] (by decide +kernel) (by decide +kernel)
      (by decide)
  exact ⟨project, hcomponents, hrooted (by decide +kernel) (by decide +kernel), houtput⟩

end Settings

end EntityScaffold
