/-!
# Cutting a sequence at separators

`pieces p s` cuts `s` at every item that satisfies `p`; the separators are dropped and empty pieces
are kept, so a text with `n` separators has `n + 1` pieces. Main statement: `pieces_append_cons`, a
separator cuts a text into two texts that are cut independently.
-/

namespace FragmentRunner.Text

variable {α : Type}

/-- The pieces of a sequence between the items that satisfy `p`. -/
def pieces (p : α → Bool) : List α → List (List α)
  | [] => [[]]
  | c :: rest =>
    if p c then [] :: pieces p rest
    else
      match pieces p rest with
      | [] => [[c]]
      | first :: others => (c :: first) :: others

@[simp] theorem pieces_nil (p : α → Bool) : pieces p [] = [[]] := rfl

theorem pieces_ne_nil (p : α → Bool) (s : List α) : pieces p s ≠ [] := by
  cases s with
  | nil => simp
  | cons c rest =>
    simp only [pieces]
    split
    · simp
    · split <;> simp

theorem pieces_append_cons {p : α → Bool} {c : α} (hc : p c = true) (s t : List α) :
    pieces p (s ++ c :: t) = pieces p s ++ pieces p t := by
  induction s with
  | nil => simp [pieces, hc]
  | cons d s ih =>
    simp only [List.cons_append, pieces, ih]
    split
    · simp
    · cases h : pieces p s with
      | nil => exact absurd h (pieces_ne_nil p s)
      | cons first others => simp

theorem pieces_of_forall_not {p : α → Bool} {s : List α} (h : ∀ c ∈ s, p c = false) :
    pieces p s = [s] := by
  induction s with
  | nil => rfl
  | cons c s ih =>
    obtain ⟨hc, hs⟩ := List.forall_mem_cons.mp h
    simp [pieces, hc, ih hs]

theorem not_of_mem_pieces {p : α → Bool} {s piece : List α} (h : piece ∈ pieces p s) {c : α}
    (hc : c ∈ piece) : p c = false := by
  induction s generalizing piece with
  | nil =>
    rw [pieces_nil, List.mem_singleton] at h
    simp [h] at hc
  | cons d s ih =>
    by_cases hd : p d = true
    · rw [pieces, if_pos hd, List.mem_cons] at h
      rcases h with rfl | h
      · cases hc
      · exact ih h hc
    · rw [pieces, if_neg hd] at h
      obtain ⟨first, others, hs⟩ := List.exists_cons_of_ne_nil (pieces_ne_nil p s)
      rw [hs, List.mem_cons] at h
      rcases h with rfl | h
      · rcases List.mem_cons.mp hc with rfl | hc
        · simpa using hd
        · exact ih (by rw [hs]; exact List.mem_cons_self) hc
      · exact ih (by rw [hs]; exact List.mem_cons_of_mem _ h) hc

/-- Sequences without separators are the pieces of what they are joined to. -/
theorem pieces_intercalate {p : α → Bool} {c : α} (hc : p c = true) {parts : List (List α)}
    (hne : parts ≠ []) (h : ∀ part ∈ parts, ∀ d ∈ part, p d = false) :
    pieces p (List.intercalate [c] parts) = parts := by
  induction parts with
  | nil => exact absurd rfl hne
  | cons part parts ih =>
    obtain ⟨hpart, hparts⟩ := List.forall_mem_cons.mp h
    by_cases hlast : parts = []
    · rw [hlast, List.intercalate_singleton, pieces_of_forall_not hpart]
    · have hjoined : List.intercalate [c] (part :: parts)
          = part ++ c :: List.intercalate [c] parts := by
        rw [List.intercalate_cons_of_ne_nil hlast, List.append_assoc, List.singleton_append]
      rw [hjoined, pieces_append_cons hc, pieces_of_forall_not hpart, ih hlast hparts,
        List.singleton_append]

/-- The pieces of a sequence, joined again, are the sequence. -/
theorem intercalate_pieces {p : α → Bool} {c : α} (hc : ∀ d, p d = true → d = c) (s : List α) :
    List.intercalate [c] (pieces p s) = s := by
  induction s with
  | nil => rfl
  | cons d s ih =>
    obtain ⟨first, others, hs⟩ := List.exists_cons_of_ne_nil (pieces_ne_nil p s)
    by_cases hd : p d = true
    · rw [pieces, if_pos hd, hc d hd, List.intercalate_cons_of_ne_nil (pieces_ne_nil p s), ih]
      rfl
    · rw [pieces, if_neg hd]
      simp only [hs] at ih ⊢
      cases others with
      | nil =>
        rw [List.intercalate_singleton] at ih ⊢
        rw [ih]
      | cons next others =>
        rw [List.intercalate_cons_of_ne_nil (List.cons_ne_nil next others)] at ih ⊢
        rw [List.cons_append, List.cons_append, ih]

/-- A sequence is cut as its image is, if the separators are read off the image. -/
theorem map_pieces {β : Type} (p : β → Bool) (f : α → β) (s : List α) :
    (pieces (fun c => p (f c)) s).map (List.map f) = pieces p (s.map f) := by
  induction s with
  | nil => rfl
  | cons c s ih =>
    simp only [List.map_cons, pieces, ← ih]
    split
    · rfl
    · cases h : pieces (fun c => p (f c)) s with
      | nil => rfl
      | cons first others => rfl

/-- What is read off the items is found in the pieces, in order, if the separators have none of
it. -/
theorem flatMap_filterMap_pieces {β : Type} {p : α → Bool} {f : α → Option β}
    (h : ∀ c, p c = true → f c = none) (s : List α) :
    (pieces p s).flatMap (List.filterMap f) = s.filterMap f := by
  induction s with
  | nil => rfl
  | cons c s ih =>
    by_cases hc : p c = true
    · rw [pieces, if_pos hc, List.flatMap_cons, ih, List.filterMap_cons_none (h c hc)]
      rfl
    · rw [pieces, if_neg hc]
      obtain ⟨first, others, hs⟩ := List.exists_cons_of_ne_nil (pieces_ne_nil p s)
      simp only [hs, List.flatMap_cons] at ih ⊢
      rw [← List.singleton_append, List.filterMap_append, List.append_assoc, ih,
        ← List.filterMap_append, List.singleton_append]

end FragmentRunner.Text
