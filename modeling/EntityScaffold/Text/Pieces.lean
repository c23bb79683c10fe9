/-!
# Texts cut at a separator

`split` cuts a text at every occurrence of a separator and keeps empty pieces, so that `join`
puts the same text together again (`join_split`). `cutLast` cuts at the last occurrence only.
Package names (`.`) and paths (`/`) are both read this way.
-/

namespace EntityScaffold.Text

variable {sep : Char} {s : List Char}

/-- The pieces between the separators: one more than there are separators. -/
def split (sep : Char) : List Char → List (List Char)
  | [] => [[]]
  | c :: cs =>
    if c = sep then [] :: split sep cs
    else
      match split sep cs with
      | [] => [[c]]
      | piece :: pieces => (c :: piece) :: pieces

/-- The pieces with a separator between each two. -/
def join (sep : Char) : List (List Char) → List Char
  | [] => []
  | [piece] => piece
  | piece :: next :: pieces => piece ++ sep :: join sep (next :: pieces)

/-- What stands before and after the last separator. -/
def cutLast (sep : Char) : List Char → Option (List Char × List Char)
  | [] => none
  | c :: cs =>
    match cutLast sep cs with
    | some (before, after) => some (c :: before, after)
    | none => if c = sep then some ([], cs) else none

theorem split_ne_nil (sep : Char) (s : List Char) : split sep s ≠ [] := by
  cases s with
  | nil => simp [split]
  | cons c cs =>
    unfold split
    split
    · simp
    · split <;> simp

theorem join_cons (sep : Char) (piece : List Char) {pieces : List (List Char)}
    (h : pieces ≠ []) : join sep (piece :: pieces) = piece ++ sep :: join sep pieces := by
  cases pieces with
  | nil => exact absurd rfl h
  | cons next pieces => rfl

theorem join_split (sep : Char) (s : List Char) : join sep (split sep s) = s := by
  induction s with
  | nil => rfl
  | cons c cs ih =>
    unfold split
    split
    · next h => rw [join_cons sep [] (split_ne_nil sep cs), ih, h]; rfl
    · cases hs : split sep cs with
      | nil => exact absurd hs (split_ne_nil sep cs)
      | cons piece pieces =>
        rw [hs] at ih
        cases pieces with
        | nil => simpa [join] using ih
        | cons next pieces => simpa [join] using ih

/-- No piece holds a separator. -/
theorem not_mem_of_mem_split {piece : List Char} (h : piece ∈ split sep s) : sep ∉ piece := by
  induction s generalizing piece with
  | nil => simp [split] at h; simp [h]
  | cons c cs ih =>
    unfold split at h
    split at h
    · rcases List.mem_cons.mp h with rfl | h
      · simp
      · exact ih h
    · next hc =>
      cases hs : split sep cs with
      | nil => exact absurd hs (split_ne_nil sep cs)
      | cons first rest =>
        rw [hs] at h ih
        rcases List.mem_cons.mp h with rfl | h
        · have := ih (List.mem_cons_self ..)
          simp [this, Ne.symm hc]
        · exact ih (List.mem_cons_of_mem _ h)

theorem cutLast_eq_none_iff : cutLast sep s = none ↔ sep ∉ s := by
  induction s with
  | nil => simp [cutLast]
  | cons c cs ih =>
    unfold cutLast
    cases h : cutLast sep cs with
    | some p =>
      have : sep ∈ cs := by
        rw [h] at ih
        simpa using ih
      simp [this]
    | none =>
      have := ih.mp h
      by_cases hc : c = sep
      · simp [hc]
      · simp [hc, this, Ne.symm hc]

/-- The two parts surround the last separator: the text is put together from them, and the second
holds no separator. -/
theorem cutLast_eq_some_iff {before after : List Char} :
    cutLast sep s = some (before, after) ↔ s = before ++ sep :: after ∧ sep ∉ after := by
  induction s generalizing before after with
  | nil => simp [cutLast]
  | cons c cs ih =>
    unfold cutLast
    cases h : cutLast sep cs with
    | some p =>
      obtain ⟨b, a⟩ := p
      rw [h] at ih
      have hp : cs = b ++ sep :: a ∧ sep ∉ a := ih.mp rfl
      constructor
      · intro e
        simp only [Option.some.injEq, Prod.mk.injEq] at e
        obtain ⟨rfl, rfl⟩ := e
        exact ⟨by rw [hp.1]; rfl, hp.2⟩
      · rintro ⟨e, ha⟩
        cases before with
        | nil =>
          have : cs = after := (List.cons.inj e).2
          exact absurd (by rw [← this, hp.1]; simp) ha
        | cons b' before =>
          obtain ⟨rfl, e'⟩ := List.cons.inj e
          have := ih.mpr ⟨e', ha⟩
          simp only [Option.some.injEq, Prod.mk.injEq] at this
          simp [this.1, this.2]
    | none =>
      have hn := cutLast_eq_none_iff.mp h
      by_cases hc : c = sep
      · subst hc
        simp only [if_true, Option.some.injEq, Prod.mk.injEq]
        constructor
        · rintro ⟨rfl, rfl⟩
          exact ⟨rfl, hn⟩
        · rintro ⟨e, ha⟩
          cases before with
          | nil => exact ⟨rfl, (List.cons.inj e).2⟩
          | cons b before =>
            refine absurd ?_ hn
            rw [(List.cons.inj e).2]
            simp
      · simp only [hc, if_false]
        constructor
        · simp
        · rintro ⟨e, ha⟩
          cases before with
          | nil => exact absurd (List.cons.inj e).1 hc
          | cons b before =>
            refine absurd ?_ hn
            rw [(List.cons.inj e).2]
            simp

/-- What stands before the first separator, and what comes after it. -/
theorem exists_eq_takeWhile_append {c : Char} {s : List Char} (h : c ∈ s) :
    ∃ rest, s = s.takeWhile (· != c) ++ c :: rest := by
  induction s with
  | nil => exact absurd h List.not_mem_nil
  | cons d s ih =>
    by_cases hd : d = c
    · exact ⟨s, by simp [hd]⟩
    · obtain ⟨rest, hrest⟩ := ih ((List.mem_cons.mp h).resolve_left (Ne.symm hd))
      refine ⟨rest, ?_⟩
      rw [List.takeWhile_cons_of_pos (by simpa using hd), List.cons_append, ← hrest]

theorem not_mem_takeWhile_ne (c : Char) (s : List Char) : c ∉ s.takeWhile (· != c) := by
  intro hmem
  simpa using List.all_eq_true.mp List.all_takeWhile c hmem

end EntityScaffold.Text
