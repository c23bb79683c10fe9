import Mathlib.Data.List.DropRight
import EntityScaffold.Proofs.PathComponents

/-!
# Parents and ancestors

The parent of a path has all its names but the last (`names_parent?`), whatever idle pieces stand
between them, and a path without a parent has no names. So an induction along the ancestors is one
along the names, from the last to the first. What a path passes is a beginning of what it names
(`pathNames_of_mem_ancestors`), and unless it leads upwards it never passes its own place
(`location_ne_of_mem_ancestors_parent?`).

The parent keeps the spelling of what it does not drop. The spelling is settled where nothing idle
stands between the names (`IsTidy`): the ancestors of such a path are the root with the first ones
of its names (`parent?_of_isTidy`).
-/

namespace EntityScaffold

/-- Pieces without the separator are the pieces of what they are joined to. -/
theorem Text.split_join {sep : Char} {pieces : List (List Char)} (hne : pieces ≠ [])
    (h : ∀ piece ∈ pieces, sep ∉ piece) : split sep (join sep pieces) = pieces := by
  induction pieces with
  | nil => exact absurd rfl hne
  | cons piece rest ih =>
    obtain ⟨hpiece, hrest⟩ := List.forall_mem_cons.mp h
    cases rest with
    | nil => exact split_of_not_mem hpiece
    | cons next rest =>
      rw [join_cons sep piece (List.cons_ne_nil next rest), split_append, split_of_not_mem hpiece,
        ih (List.cons_ne_nil next rest) hrest]
      rfl

namespace Path

open Text FileTree

variable {p q : Path}

theorem pieces_ofPieces {ps : List (List Char)} (hne : ps ≠ []) (h : ∀ piece ∈ ps, '/' ∉ piece) :
    (ofPieces ps).pieces = ps := by
  unfold ofPieces pieces
  rw [String.toList_ofList, split_join hne h]

theorem isAbsolute_of_pieces {first : List Char} {rest : List (List Char)}
    (h : p.pieces = first :: rest) : p.isAbsolute = (first.isEmpty && !rest.isEmpty) := by
  have htext : p.text.toList = Text.join '/' (first :: rest) := by
    rw [← h]
    exact (join_split '/' p.text.toList).symm
  have hslash : '/' ∉ first := by
    apply not_mem_of_mem_split (s := p.text.toList)
    have hpieces : split '/' p.text.toList = first :: rest := h
    rw [hpieces]
    exact List.mem_cons_self
  unfold isAbsolute
  rw [htext]
  cases first with
  | nil => cases rest <;> simp [Text.join]
  | cons c cs =>
    have hc : c ≠ '/' := fun hc => hslash (hc ▸ List.mem_cons_self)
    cases rest <;> simp [Text.join, hc]

theorem isAbsolute_join_of_isAbsolute (hp : p.isAbsolute = true) (q : Path) :
    (p.join q).isAbsolute = true := by
  cases hq : q.isAbsolute with
  | false => rw [isAbsolute_join p hq, hp]
  | true =>
    unfold join
    rw [hq, Bool.true_or, if_pos rfl, hq]

/-! ## Idle pieces -/

section Idle

variable {pieces : List (List Char)}

theorem isPrefix_trimIdle (ps : List (List Char)) : trimIdle ps <+: ps := by
  obtain ⟨idle, hps⟩ := exists_trimIdle_append ps
  exact ⟨idle, hps.symm⟩

theorem trimIdle_concat (ps : List (List Char)) (piece : List Char) :
    trimIdle (ps ++ [piece]) = if isIdle piece then trimIdle ps else ps ++ [piece] :=
  List.rdropWhile_concat isIdle ps piece

theorem isPrefix_of_trimIdle {body : List (List Char)} {last : List Char}
    (h : trimIdle pieces = body ++ [last]) : trimIdle body <+: pieces :=
  (isPrefix_trimIdle body).trans (.trans ⟨[last], h.symm⟩ (isPrefix_trimIdle pieces))

/-- Trimming takes no name away. -/
theorem filter_trimIdle (ps : List (List Char)) :
    ((trimIdle ps).filter fun piece => !isIdle piece) = ps.filter fun piece => !isIdle piece := by
  induction ps using List.reverseRecOn with
  | nil => rfl
  | append_singleton ps piece ih =>
    rw [trimIdle_concat, List.filter_append]
    by_cases hidle : isIdle piece
    · rw [if_pos hidle, ih]
      simp [hidle]
    · rw [if_neg hidle, List.filter_append]

theorem trimIdle_append {idle : List (List Char)} (h : ∀ piece ∈ idle, isIdle piece = true)
    (ps : List (List Char)) : trimIdle (ps ++ idle) = trimIdle ps := by
  induction idle using List.reverseRecOn with
  | nil => rw [List.append_nil]
  | append_singleton idle piece ih =>
    obtain ⟨hidle, hpiece⟩ := List.forall_mem_append.mp h
    rw [← List.append_assoc, trimIdle_concat, if_pos (hpiece piece (List.mem_singleton_self piece)),
      ih hidle]

theorem trimIdle_of_forall (h : ∀ piece ∈ pieces, isIdle piece = false) :
    trimIdle pieces = pieces := by
  induction pieces using List.reverseRecOn with
  | nil => rfl
  | append_singleton ps piece =>
    rw [trimIdle_concat, h piece (List.mem_append_right ps (List.mem_singleton_self piece)),
      if_neg Bool.false_ne_true]

/-- What is left after trimming ends with a name. -/
theorem exists_concat_of_trimIdle_ne_nil (h : trimIdle pieces ≠ []) :
    ∃ body last, trimIdle pieces = body ++ [last] ∧ isIdle last = false := by
  refine ⟨(trimIdle pieces).dropLast, (trimIdle pieces).getLast h,
    (List.dropLast_concat_getLast h).symm, ?_⟩
  have hnot := List.rdropWhile_last_not isIdle pieces h
  exact Bool.eq_false_iff.mpr hnot

theorem filter_eq_nil_of_trimIdle (h : trimIdle pieces = []) :
    (pieces.filter fun piece => !isIdle piece) = [] := by
  rw [← filter_trimIdle, h, List.filter_nil]

theorem filter_cons_of_trimIdle {body : List (List Char)} {last : List Char}
    (h : trimIdle pieces = body ++ [last]) (hlast : isIdle last = false) (first : List Char) :
    ((first :: pieces).filter fun piece => !isIdle piece) =
      ((first :: body).filter fun piece => !isIdle piece) ++ [last] := by
  rw [List.filter_cons, ← filter_trimIdle, h, List.filter_append]
  cases hidle : isIdle first <;> simp [hlast, hidle]

end Idle

/-! ## Parents -/

/-- A parent is made from the first piece and what comes before the last name, or is the empty path
if there is only one piece. -/
theorem parent?_eq_some (h : p.parent? = some q) :
    q.isAbsolute = p.isAbsolute ∧ ∃ first rest, p.pieces = first :: rest ∧
      ((trimIdle rest = [] ∧ first ≠ [] ∧ q = ⟨""⟩) ∨
        ∃ body last, trimIdle rest = body ++ [last] ∧ isIdle last = false ∧
          ∀ keep : List Char → Bool, keep [] = false →
            q.pieces.filter keep = (first :: trimIdle body).filter keep) := by
  unfold parent? at h
  cases hp : p.pieces with
  | nil => exact absurd hp (split_ne_nil '/' p.text.toList)
  | cons first rest =>
    rw [hp] at h
    simp only at h
    have habsolute := isAbsolute_of_pieces hp
    split at h
    · next hbody =>
      split at h
      · cases h
      · next hfirst =>
        cases h
        have hrelative : p.isAbsolute = false := by simpa [hfirst] using habsolute
        exact ⟨hrelative.symm ▸ rfl, first, rest, rfl,
          .inl ⟨by simpa using hbody, by simpa using hfirst, rfl⟩⟩
    · next hbody =>
      obtain ⟨body, last, htrim, hlast⟩ :=
        exists_concat_of_trimIdle_ne_nil (by simpa using hbody : trimIdle rest ≠ [])
      have hrest : rest ≠ [] := by
        rintro rfl
        exact hbody rfl
      rw [htrim, List.dropLast_concat] at h
      split at h
      · next hroot =>
        cases h
        obtain ⟨habove, hfirst⟩ := Bool.and_eq_true_iff.mp hroot
        have hslash : p.isAbsolute = true := by
          rw [habsolute, hfirst, List.isEmpty_eq_false_iff.mpr hrest]
          rfl
        refine ⟨hslash.symm ▸ rfl, first, rest, rfl, .inr ⟨body, last, htrim, hlast, ?_⟩⟩
        intro keep hkeep
        rw [List.isEmpty_iff.mp habove, List.isEmpty_iff.mp hfirst]
        have hpieces : (⟨"/"⟩ : Path).pieces = [[], []] := rfl
        simp [hpieces, hkeep]
      · next hroot =>
        have hbelow : first :: trimIdle body <+: p.pieces := by
          rw [hp, List.prefix_cons_inj]
          exact isPrefix_of_trimIdle htrim
        have hpieces : q.pieces = first :: trimIdle body := by
          cases h
          exact pieces_ofPieces (List.cons_ne_nil _ _) fun piece hpiece =>
            not_mem_of_mem_split (hbelow.subset hpiece)
        refine ⟨?_, first, rest, rfl, .inr ⟨body, last, htrim, hlast, fun keep _ => ?_⟩⟩
        · rw [isAbsolute_of_pieces hpieces, habsolute]
          cases hfirst : first.isEmpty with
          | false => rfl
          | true =>
            have hne : (trimIdle body).isEmpty = false := by simpa [hfirst] using hroot
            rw [hne, List.isEmpty_eq_false_iff.mpr hrest]
        · rw [hpieces]

/-- The parent has all names but the last. -/
theorem names_parent? (h : p.parent? = some q) : q.names = p.names.dropLast := by
  obtain ⟨-, first, rest, hp, ⟨hrest, -, rfl⟩ | ⟨body, last, htrim, hlast, hq⟩⟩ :=
    parent?_eq_some h
  · have hempty : (⟨""⟩ : Path).names = [] := rfl
    unfold names
    rw [hp, List.filter_cons, filter_eq_nil_of_trimIdle hrest]
    cases isIdle first <;> exact hempty
  · unfold names
    rw [hp, filter_cons_of_trimIdle htrim hlast, List.map_append, List.map_singleton,
      List.dropLast_concat, hq _ rfl, List.filter_cons, filter_trimIdle, List.filter_cons]

/-- A path without a parent has no names. -/
theorem names_eq_nil_of_parent? (h : p.parent? = none) : p.names = [] := by
  unfold parent? at h
  unfold names
  split at h
  · next hp => exact absurd hp (split_ne_nil '/' p.text.toList)
  · next first rest hp =>
    simp only at h
    split at h
    · next hbody =>
      split at h
      · next hfirst =>
        have hrest : trimIdle rest = [] := by simpa using hbody
        rw [hp, List.isEmpty_iff.mp hfirst, List.filter_cons, filter_eq_nil_of_trimIdle hrest]
        rfl
      · cases h
    · split at h <;> cases h

/-- A path is called by the last of its names, unless that leads upwards. -/
theorem fileName?_eq_some_iff {name : String} :
    p.fileName? = some name ↔ p.names.getLast? = some name ∧ name ≠ ".." := by
  have hup (piece : List Char) : piece = ['.', '.'] ↔ String.ofList piece = ".." := by
    constructor
    · rintro rfl
      rfl
    · intro h
      have := congrArg String.toList h
      rwa [String.toList_ofList] at this
  have hname (piece : List Char) :
      ((if (piece == ['.', '.']) = true then none else some (String.ofList piece)) = some name) ↔
        String.ofList piece = name ∧ name ≠ ".." := by
    split
    · next hdots =>
      have hdots : String.ofList piece = ".." := (hup piece).mp (by simpa using hdots)
      exact ⟨nofun, fun h => absurd (h.1.symm.trans hdots) h.2⟩
    · next hdots =>
      have hdots : String.ofList piece ≠ ".." := fun h => hdots (by simpa using (hup piece).mpr h)
      rw [Option.some.injEq]
      exact ⟨fun h => ⟨h, h ▸ hdots⟩, fun h => h.1⟩
  unfold fileName? names
  cases hp : p.pieces with
  | nil => exact absurd hp (split_ne_nil '/' p.text.toList)
  | cons first rest =>
    simp only
    rcases eq_or_ne (trimIdle rest) [] with hrest | hrest
    · rw [hrest, List.getLast?_nil, List.filter_cons, filter_eq_nil_of_trimIdle hrest]
      cases hidle : isIdle first with
      | true => simp
      | false => simpa using hname first
    · obtain ⟨body, last, htrim, hlast⟩ := exists_concat_of_trimIdle_ne_nil hrest
      rw [htrim, List.getLast?_concat, filter_cons_of_trimIdle htrim hlast, List.getLast?_map,
        List.getLast?_concat]
      simpa using hname last

/-- The parent of a path passes the first ones of its names. -/
theorem pathNames_parent? (h : p.parent? = some q) :
    q.isAbsolute = p.isAbsolute ∧ pathNames q <+: pathNames p := by
  obtain ⟨habsolute, first, rest, hp, ⟨-, -, rfl⟩ | ⟨body, last, htrim, -, hq⟩⟩ :=
    parent?_eq_some h
  · exact ⟨habsolute, List.nil_prefix⟩
  · refine ⟨habsolute, ?_⟩
    have hbelow : first :: trimIdle body <+: p.pieces := by
      rw [hp, List.prefix_cons_inj]
      exact isPrefix_of_trimIdle htrim
    unfold pathNames
    rw [hq _ rfl]
    exact (hbelow.filter _).map _

/-! ## Ancestors -/

theorem ancestors_of_parent? (h : p.parent? = some q) : p.ancestors = p :: q.ancestors := by
  rw [ancestors]
  split
  · next other hother =>
    rw [Option.some.inj (h.symm.trans hother)]
  · next hnone =>
    rw [hnone] at h
    cases h

theorem ancestors_of_parent?_eq_none (h : p.parent? = none) : p.ancestors = [p] := by
  rw [ancestors]
  split
  · next other hother =>
    rw [h] at hother
    cases hother
  · rfl

/-- What holds of a path and of the parent of whatever it holds of holds of all its ancestors. -/
theorem forall_mem_ancestors {P : Path → Prop} (hself : P p)
    (hparent : ∀ q above : Path, P q → q.parent? = some above → P above) :
    ∀ q ∈ p.ancestors, P q := by
  induction p using ancestors.induct with
  | case1 p above habove ih =>
    rw [ancestors_of_parent? habove]
    exact List.forall_mem_cons.mpr ⟨hself, ih (hparent p above hself habove)⟩
  | case2 p hnone =>
    rw [ancestors_of_parent?_eq_none hnone]
    exact List.forall_mem_singleton.mpr hself

theorem pathNames_of_mem_ancestors (h : q ∈ p.ancestors) :
    q.isAbsolute = p.isAbsolute ∧ pathNames q <+: pathNames p := by
  refine forall_mem_ancestors (P := fun q => q.isAbsolute = p.isAbsolute ∧
    pathNames q <+: pathNames p) ⟨rfl, List.prefix_rfl⟩ ?_ q h
  rintro q above ⟨habsolute, hnames⟩ habove
  obtain ⟨habsolute', hnames'⟩ := pathNames_parent? habove
  exact ⟨habsolute'.trans habsolute, hnames'.trans hnames⟩

theorem names_of_mem_ancestors (h : q ∈ p.ancestors) : q.names <+: p.names := by
  refine forall_mem_ancestors (P := fun q => q.names <+: p.names) List.prefix_rfl ?_ q h
  intro q above hnames habove
  rw [names_parent? habove]
  exact (List.dropLast_prefix q.names).trans hnames

/-! ## Where ancestors lead -/

/-- The names of a path are what it passes, without the `.` that lead nowhere. -/
theorem names_eq_filter_pathNames (p : Path) : p.names = (pathNames p).filter (· ≠ ".") := by
  have hdot (piece : List Char) : String.ofList piece = "." ↔ piece = ['.'] := by
    constructor
    · intro h
      have := congrArg String.toList h
      rwa [String.toList_ofList] at this
    · rintro rfl
      rfl
  unfold names pathNames
  rw [List.filter_map, List.filter_filter]
  congr 1
  refine List.filter_congr fun piece _ => ?_
  by_cases hpiece : piece = ['.'] <;> simp [isIdle, hdot, hpiece]

/-- A path that does not lead upwards leads down by its names. -/
theorem location_of_not_mem (h : ".." ∉ p.names) (workingDirectory : Location) :
    p.location workingDirectory = (if p.isAbsolute then [] else workingDirectory) ++ p.names := by
  have hdown (names : List String) (hnames : ".." ∉ names.filter (· ≠ ".")) (here : Location) :
      names.foldl Location.follow here = here ++ names.filter (· ≠ ".") := by
    induction names generalizing here with
    | nil => exact (List.append_nil here).symm
    | cons name names ih =>
      rw [List.foldl_cons, Location.follow]
      by_cases hdot : name = "."
      · rw [List.filter_cons_of_neg (by simpa using hdot)] at hnames ⊢
        rw [if_pos hdot, ih hnames]
      · rw [List.filter_cons_of_pos (by simpa using hdot)] at hnames ⊢
        obtain ⟨hup, hrest⟩ := not_or.mp (mt List.mem_cons.mpr hnames)
        rw [if_neg hdot, if_neg (Ne.symm hup), ih hrest, List.append_assoc]
        rfl
  rw [names_eq_filter_pathNames] at h ⊢
  exact hdown _ h _

/-- A path that has names and does not lead upwards does not pass its own place. -/
theorem location_ne_of_mem_ancestors_parent? {directory : Path} (hne : p.names ≠ [])
    (hup : ".." ∉ p.names) (hparent : p.parent? = some directory) (hq : q ∈ directory.ancestors)
    (workingDirectory : Location) : q.location workingDirectory ≠ p.location workingDirectory := by
  have hnames : q.names <+: p.names.dropLast := names_parent? hparent ▸ names_of_mem_ancestors hq
  have hsub : q.names ⊆ p.names := fun name hname =>
    (List.dropLast_prefix p.names).subset (hnames.subset hname)
  have habsolute : q.isAbsolute = p.isAbsolute :=
    (pathNames_of_mem_ancestors hq).1.trans (pathNames_parent? hparent).1
  rw [location_of_not_mem (fun h => hup (hsub h)), location_of_not_mem hup, habsolute, Ne,
    List.append_cancel_left_eq]
  intro heq
  have hlength := hnames.length_le
  rw [heq, List.length_dropLast] at hlength
  have := List.length_pos_iff.mpr hne
  omega

/-! ## Spelling -/

/-- The texts that can be names of a path: they have no slashes in them and mean something. -/
def IsName (name : String) : Prop :=
  '/' ∉ name.toList ∧ isIdle name.toList = false

theorem isName_of_mem_names {name : String} (h : name ∈ p.names) : IsName name := by
  obtain ⟨piece, hpiece, rfl⟩ := List.mem_map.mp h
  obtain ⟨hmem, hidle⟩ := List.mem_filter.mp hpiece
  unfold IsName
  rw [String.toList_ofList]
  exact ⟨not_mem_of_mem_split hmem, by simpa using hidle⟩

/-- The absolute path with the given names and nothing else. -/
def rooted (names : List String) : Path :=
  ⟨"/" ++ String.intercalate "/" names⟩

section Rooted

variable {names : List String}

/-- A slash stands in front of each name, and the root is one slash. -/
theorem toList_rooted (hne : names ≠ []) :
    (rooted names).text.toList = names.flatMap fun name => '/' :: name.toList := by
  have hjoin (names : List String) (hne : names ≠ []) :
      '/' :: (String.intercalate "/" names).toList =
        names.flatMap fun name => '/' :: name.toList := by
    induction names with
    | nil => exact absurd rfl hne
    | cons name names ih =>
      cases names with
      | nil => simp
      | cons next names =>
        rw [List.flatMap_cons, ← ih (List.cons_ne_nil next names)]
        simp [String.intercalate_cons_cons]
  unfold rooted
  rw [String.toList_append, ← hjoin names hne]
  rfl

theorem pieces_rooted (hne : names ≠ []) (h : ∀ name ∈ names, IsName name) :
    (rooted names).pieces = [] :: names.map String.toList := by
  have hsplit (names : List String) (h : ∀ name ∈ names, IsName name) :
      split '/' (names.flatMap fun name => '/' :: name.toList) =
        [] :: names.map String.toList := by
    induction names using List.reverseRecOn with
    | nil => rfl
    | append_singleton names name ih =>
      obtain ⟨hnames, hname⟩ := List.forall_mem_append.mp h
      rw [List.flatMap_append, List.flatMap_singleton, split_append, ih hnames,
        split_of_not_mem (hname name (List.mem_singleton_self name)).1]
      simp
  unfold pieces
  rw [toList_rooted hne, hsplit names h]

theorem filter_map_toList (h : ∀ name ∈ names, IsName name) :
    (names.map String.toList).filter (fun piece => !isIdle piece) = names.map String.toList := by
  refine List.filter_eq_self.mpr fun piece hpiece => ?_
  obtain ⟨name, hname, rfl⟩ := List.mem_map.mp hpiece
  rw [(h name hname).2]
  rfl

@[simp]
theorem names_rooted (h : ∀ name ∈ names, IsName name) : (rooted names).names = names := by
  rcases eq_or_ne names [] with rfl | hne
  · rfl
  · unfold Path.names
    rw [pieces_rooted hne h, List.filter_cons_of_neg (by simp [isIdle]), filter_map_toList h]
    simp

theorem endsWithSlash_rooted (hne : names ≠ []) (h : ∀ name ∈ names, IsName name) :
    (rooted names).endsWithSlash = false := by
  obtain ⟨before, last, rfl⟩ := (List.eq_nil_or_concat' names).resolve_left hne
  obtain ⟨hslash, hidle⟩ := h last (List.mem_append_right before (List.mem_singleton_self last))
  have hlast : last.toList ≠ [] := by
    intro hnil
    rw [hnil] at hidle
    cases hidle
  unfold endsWithSlash
  rw [toList_rooted hne, List.flatMap_append, List.flatMap_singleton,
    List.getLast?_append_of_ne_nil _ (List.cons_ne_nil _ _), List.getLast?_cons_of_ne_nil hlast,
    beq_eq_false_iff_ne]
  exact fun hend => hslash (List.mem_of_getLast? hend)

/-- The next name is taken from the root or put after a slash. -/
theorem join_rooted (h : ∀ name ∈ names, IsName name) {name : String} (hname : IsName name) :
    (rooted names).join ⟨name⟩ = rooted (names ++ [name]) := by
  have htext : (rooted names).text.isEmpty = false := by simp [rooted]
  unfold join
  rw [isAbsolute_of_slash_free hname.1, htext, if_neg (by decide)]
  rcases eq_or_ne names [] with rfl | hne
  · have hroot : (rooted []).endsWithSlash = true := rfl
    rw [if_pos hroot]
    simp [rooted]
  · rw [endsWithSlash_rooted hne h, if_neg (by decide)]
    have hnext : (rooted names).text ++ "/" ++ name = (rooted (names ++ [name])).text := by
      refine String.toList_inj.mp ?_
      have hne' : names ++ [name] ≠ [] := by simp
      rw [String.toList_append, String.toList_append, toList_rooted hne, toList_rooted hne',
        List.flatMap_append, List.flatMap_singleton, List.append_assoc]
      rfl
    exact congrArg Path.mk hnext

end Rooted

/-- An absolute path with nothing idle between its names. -/
def IsTidy (p : Path) : Prop :=
  ∃ idle, (∀ piece ∈ idle, isIdle piece = true) ∧
    p.pieces = [] :: (p.names.map String.toList ++ idle)

theorem isTidy_rooted {names : List String} (h : ∀ name ∈ names, IsName name) :
    (rooted names).IsTidy := by
  rcases eq_or_ne names [] with rfl | hne
  · exact ⟨[[]], by simp [isIdle], rfl⟩
  · exact ⟨[], List.forall_mem_nil _, by rw [names_rooted h, pieces_rooted hne h, List.append_nil]⟩

/-- The parent of a tidy path is the root with all names but the last. -/
theorem parent?_of_isTidy (h : p.IsTidy) :
    p.parent? = if p.names = [] then none else some (rooted p.names.dropLast) := by
  obtain ⟨idle, hidle, hpieces⟩ := h
  have htrim (names : List String) (hnames : names ⊆ p.names) :
      trimIdle (names.map String.toList) = names.map String.toList := by
    refine trimIdle_of_forall fun piece hpiece => ?_
    obtain ⟨name, hname, rfl⟩ := List.mem_map.mp hpiece
    exact (isName_of_mem_names (hnames hname)).2
  unfold parent?
  rw [hpieces]
  simp only
  rw [trimIdle_append hidle, htrim p.names (List.Subset.refl _), ← List.map_dropLast,
    htrim p.names.dropLast (List.dropLast_subset p.names)]
  rcases eq_or_ne p.names [] with hnil | hne
  · rw [hnil]
    rfl
  rw [if_neg (by simpa using hne), if_neg hne]
  rcases eq_or_ne p.names.dropLast [] with hnil | habove
  · rw [hnil]
    rfl
  · have hproper : ∀ name ∈ p.names.dropLast, IsName name := fun name hname =>
      isName_of_mem_names (List.dropLast_subset p.names hname)
    have hmap : (p.names.dropLast.map String.toList).isEmpty = false := by
      rw [List.isEmpty_map]
      exact List.isEmpty_eq_false_iff.mpr habove
    rw [hmap, Bool.false_and, if_neg Bool.false_ne_true, ← pieces_rooted habove hproper]
    unfold ofPieces pieces
    rw [join_split, String.ofList_toList]

theorem eq_rooted_of_parent? (h : p.IsTidy) (hparent : p.parent? = some q) :
    q = rooted q.names := by
  have hrooted := parent?_of_isTidy h
  rw [hparent] at hrooted
  split at hrooted
  · cases hrooted
  · rw [names_parent? hparent]
    exact Option.some.inj hrooted

theorem isTidy_of_mem_ancestors (h : p.IsTidy) (hq : q ∈ p.ancestors) : q.IsTidy := by
  refine forall_mem_ancestors h (fun q above hq habove => ?_) q hq
  rw [eq_rooted_of_parent? hq habove]
  exact isTidy_rooted fun name => isName_of_mem_names

end Path

end EntityScaffold
