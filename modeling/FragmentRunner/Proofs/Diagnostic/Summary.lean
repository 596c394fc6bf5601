import FragmentRunner.Diagnostic
import FragmentRunner.Proofs.Text.Words
import Mathlib.Order.Bounds.Basic
import Mathlib.Order.Nat

/-!
# The words of a summary

A location is looked for in a line character by character, and what follows it is cut into words
only then. The words of the line tell as much: a position has no white space in it and ends where a
word ends, so the location ends with one of the words, and the summary has the words after that
one.

* `afterPosition?_eq_some_iff`: what a position is, and where it may end.
* `found_words`: the first position in a text is at the end of the first word that ends in one.
* `words_stripLocation`: which words of a line are left.
* `summarize_by_words`: the summary of a log, told by the words of its first line.
-/

namespace FragmentRunner.Diagnostic

open Text

variable {text rest word line : List Char} {ws : List (List Char)} {c : Char} {k : Nat}

/-! ## Positions -/

/-- A run of one or more decimal digits. -/
structure IsNumber (text : List Char) : Prop where
  ne_nil : text ≠ []
  digits : ∀ c ∈ text, isDecimalDigit c = true

/-- A line number and a column number, with a colon before, between and after them. -/
def IsPosition (text : List Char) : Prop :=
  ∃ row column, IsNumber row ∧ IsNumber column ∧
    text = ':' :: (row ++ ':' :: (column ++ [':']))

/-- The last characters of a word are a position. -/
def EndsInPosition (word : List Char) : Prop :=
  ∃ path position, IsPosition position ∧ word = path ++ position

/-- Digits are no white space. -/
theorem isBlank_of_isDecimalDigit (h : isDecimalDigit c = true) : isBlank c = false :=
  CodeRanges.not_has_of_has (by decide) h

/-- A number is read up to the colon behind it. -/
theorem afterNumber?_eq_some_iff :
    afterNumber? text = some rest ↔ ∃ number, IsNumber number ∧ text = number ++ ':' :: rest := by
  constructor
  · intro h
    rw [afterNumber?] at h
    split at h
    · next c digits colon htake hdrop =>
      cases h
      refine ⟨text.takeWhile isDecimalDigit, ⟨?_, fun c hc => List.mem_takeWhile_imp hc⟩, ?_⟩
      · rw [htake]
        exact List.cons_ne_nil c digits
      · rw [← hdrop, List.takeWhile_append_dropWhile]
    · cases h
  · rintro ⟨number, hnumber, rfl⟩
    have htake : (number ++ ':' :: rest).takeWhile isDecimalDigit = number := by
      rw [List.takeWhile_append_of_pos hnumber.digits, List.takeWhile_cons_of_neg (by decide),
        List.append_nil]
    have hdrop : (number ++ ':' :: rest).dropWhile isDecimalDigit = ':' :: rest := by
      rw [List.dropWhile_append_of_pos hnumber.digits, List.dropWhile_cons_of_neg (by decide)]
    obtain ⟨c, digits, hcons⟩ := List.exists_cons_of_ne_nil hnumber.ne_nil
    rw [afterNumber?, htake, hdrop, hcons]
    rfl

/-- A position ends where a word ends. -/
theorem afterPosition?_eq_some_iff :
    afterPosition? text = some rest ↔
      EndsBefore rest ∧ ∃ position, IsPosition position ∧ text = position ++ rest := by
  have hends : (rest.isEmpty || startsBlank rest) = true ↔ EndsBefore rest := by
    rw [Bool.or_eq_true, List.isEmpty_iff, EndsBefore]
  constructor
  · intro h
    unfold afterPosition? at h
    split at h
    · next text =>
      obtain ⟨afterRow, hrow, h⟩ := Option.bind_eq_some_iff.mp h
      obtain ⟨afterColumn, hcolumn, h⟩ := Option.bind_eq_some_iff.mp h
      split_ifs at h with hend
      cases h
      obtain ⟨row, hisRow, rfl⟩ := afterNumber?_eq_some_iff.mp hrow
      obtain ⟨column, hisColumn, rfl⟩ := afterNumber?_eq_some_iff.mp hcolumn
      exact ⟨hends.mp hend, _, ⟨row, column, hisRow, hisColumn, rfl⟩, by simp⟩
    · cases h
  · rintro ⟨hend, position, ⟨row, column, hrow, hcolumn, rfl⟩, rfl⟩
    have hfirst : afterNumber? (row ++ ':' :: (column ++ ':' :: rest)) =
        some (column ++ ':' :: rest) := afterNumber?_eq_some_iff.mpr ⟨row, hrow, rfl⟩
    have hsecond : afterNumber? (column ++ ':' :: rest) = some rest :=
      afterNumber?_eq_some_iff.mpr ⟨column, hcolumn, rfl⟩
    have hsplit : ':' :: (row ++ ':' :: (column ++ [':'])) ++ rest =
        ':' :: (row ++ ':' :: (column ++ ':' :: rest)) := by simp
    rw [hsplit, afterPosition?, hfirst, Option.bind_eq_bind, Option.bind_some, hsecond,
      Option.bind_some, if_pos (hends.mpr hend)]

/-- There is no white space in a position. -/
theorem IsPosition.not_blank (h : IsPosition text) : NoBlank text := by
  obtain ⟨row, column, hrow, hcolumn, rfl⟩ := h
  have hcolon : isBlank ':' = false := by decide
  intro c hc
  simp only [List.mem_cons, List.mem_append, List.not_mem_nil, or_false] at hc
  rcases hc with rfl | hc | rfl | hc | rfl
  · exact hcolon
  · exact isBlank_of_isDecimalDigit (hrow.digits c hc)
  · exact hcolon
  · exact isBlank_of_isDecimalDigit (hcolumn.digits c hc)
  · exact hcolon

/-- A position is not empty. -/
theorem IsPosition.ne_nil (h : IsPosition text) : text ≠ [] := by
  obtain ⟨row, column, -, -, rfl⟩ := h
  exact List.cons_ne_nil _ _

/-- At the beginning of a word a position is found if the word is one. -/
theorem afterPosition?_append (hword : NoBlank word) (hend : EndsBefore rest) :
    (IsPosition word → afterPosition? (word ++ rest) = some rest) ∧
    (¬IsPosition word → afterPosition? (word ++ rest) = none) := by
  constructor
  · intro hposition
    exact afterPosition?_eq_some_iff.mpr ⟨hend, word, hposition, rfl⟩
  · intro hnot
    rw [Option.eq_none_iff_forall_ne_some]
    intro after hafter
    obtain ⟨hend', position, hposition, hsplit⟩ := afterPosition?_eq_some_iff.mp hafter
    -- A position would take up the whole word, and end with it.
    obtain ⟨rfl, -⟩ := append_inj_of_endsBefore hword hposition.not_blank hend hend' hsplit
    exact hnot hposition

/-- A word ends in a position if it is one, or if what follows its first character does. -/
theorem endsInPosition_cons :
    EndsInPosition (c :: word) ↔ IsPosition (c :: word) ∨ EndsInPosition word := by
  constructor
  · rintro ⟨path, position, hposition, hsplit⟩
    cases path with
    | nil => exact .inl (hsplit ▸ hposition)
    | cons d path => exact .inr ⟨path, position, hposition, (List.cons.inj hsplit).2⟩
  · rintro (hposition | ⟨path, position, hposition, rfl⟩)
    · exact ⟨[], _, hposition, rfl⟩
    · exact ⟨c :: path, position, hposition, rfl⟩

/-- Nothing does not end in a position. -/
theorem not_endsInPosition_nil : ¬EndsInPosition [] := by
  rintro ⟨path, position, hposition, hsplit⟩
  exact hposition.ne_nil (List.append_eq_nil_iff.mp hsplit.symm).2

/-- The search is over at the end of a word that ends in a position, and passes over any other
word. -/
theorem afterFirstPosition?_append (hword : NoBlank word) (hend : EndsBefore rest) :
    (EndsInPosition word → afterFirstPosition? (word ++ rest) = some rest) ∧
    (¬EndsInPosition word → afterFirstPosition? (word ++ rest) = afterFirstPosition? rest) := by
  induction word with
  | nil => exact ⟨fun h => absurd h not_endsInPosition_nil, fun _ => rfl⟩
  | cons c word ih =>
    obtain ⟨hfound, hnone⟩ := afterPosition?_append hword hend
    obtain ⟨hlater, hpassed⟩ := ih (List.forall_mem_cons.mp hword).2
    rw [endsInPosition_cons, List.cons_append, afterFirstPosition?]
    rw [List.cons_append] at hfound hnone
    constructor
    · intro hends
      by_cases hposition : IsPosition (c :: word)
      · rw [hfound hposition, Option.some_or]
      · rw [hnone hposition, Option.none_or]
        exact hlater (hends.resolve_left hposition)
    · intro hends
      rw [not_or] at hends
      rw [hnone hends.1, Option.none_or]
      exact hpassed hends.2

/-! ## The first word that ends in a position -/

/-- The word of a given number ends in a position. -/
def PositionAt (ws : List (List Char)) (k : Nat) : Prop :=
  ∃ word, ws[k]? = some word ∧ EndsInPosition word

/-- What the search for a position comes to in a text with the given words. -/
inductive Found (text : List Char) (ws : List (List Char)) : Prop
  /-- The words after the first one that ends in a position are left. -/
  | after {k : Nat} {rest : List Char} (hleast : IsLeast {k | PositionAt ws k} k)
      (htext : afterFirstPosition? text = some rest) (hwords : words rest = ws.drop (k + 1))
  /-- No word ends in a position. -/
  | nowhere (hnone : ∀ k, ¬PositionAt ws k) (htext : afterFirstPosition? text = none)

/-- The first word counts as number zero. -/
theorem positionAt_zero : PositionAt (word :: ws) 0 ↔ EndsInPosition word := by
  simp [PositionAt]

/-- The other words count from one. -/
theorem positionAt_succ : PositionAt (word :: ws) (k + 1) ↔ PositionAt ws k :=
  Iff.rfl

/-- White space is passed over. -/
theorem Found.blank (hc : isBlank c = true) (h : Found text ws) : Found (c :: text) ws := by
  have hcolon : c ≠ ':' := by
    rintro rfl
    exact absurd hc (by decide)
  have hpassed : afterFirstPosition? (c :: text) = afterFirstPosition? text := by
    have hnone : afterPosition? (c :: text) = none := by simp [afterPosition?, hcolon]
    rw [afterFirstPosition?, hnone, Option.none_or]
  cases h with
  | after hleast htext hwords => exact .after hleast (hpassed.trans htext) hwords
  | nowhere hnone htext => exact .nowhere hnone (hpassed.trans htext)

/-- The search ends with the first word, or goes on behind it. The word may be what is left of one,
and so it may be empty. -/
theorem Found.cons (hword : NoBlank word) (hend : EndsBefore rest) (hrest : words rest = ws)
    (h : Found rest ws) : Found (word ++ rest) (word :: ws) := by
  obtain ⟨hhere, hpassed⟩ := afterFirstPosition?_append hword hend
  by_cases hends : EndsInPosition word
  · refine .after (k := 0) ⟨positionAt_zero.mpr hends, fun j _ => Nat.zero_le j⟩ (hhere hends) ?_
    exact hrest
  · cases h with
    | @after k after hleast htext hwords =>
      refine .after (k := k + 1) ⟨positionAt_succ.mpr hleast.1, ?_⟩ ((hpassed hends).trans htext)
        hwords
      intro j hj
      cases j with
      | zero => exact absurd (positionAt_zero.mp hj) hends
      | succ j => exact Nat.succ_le_succ (hleast.2 (positionAt_succ.mp hj))
    | nowhere hnone htext =>
      refine .nowhere (fun j hj => ?_) ((hpassed hends).trans htext)
      cases j with
      | zero => exact hends (positionAt_zero.mp hj)
      | succ j => exact hnone j (positionAt_succ.mp hj)

/-- The first position in a text is at the end of the first word that ends in one. -/
theorem found_words (text : List Char) : Found text (words text) := by
  have hwords := hasWords_words text
  generalize words text = ws at hwords
  induction hwords with
  | nil => exact .nowhere (fun k hk => by simp [PositionAt] at hk) rfl
  | blank hc _ ih => exact ih.blank hc
  | word hword hend hrest ih =>
    exact Found.cons hword.not_blank hend (hasWords_iff.mp hrest) ih

/-! ## Lines -/

/-- The location at the beginning of a line ends with the word of a given number: that word ends in
a position, and something stands in front of the position. -/
def EndsLocation (ws : List (List Char)) (k : Nat) : Prop :=
  ∃ path position, ws[k]? = some (path ++ position) ∧ IsPosition position ∧ (k = 0 → path ≠ [])

/-- A location ends where a position does that is looked for from the second character on. -/
theorem endsLocation_cons : EndsLocation ((c :: word) :: ws) k ↔ PositionAt (word :: ws) k := by
  cases k with
  | zero =>
    rw [positionAt_zero]
    constructor
    · rintro ⟨path, position, hget, hposition, hpath⟩
      obtain ⟨d, path, rfl⟩ := List.exists_cons_of_ne_nil (hpath rfl)
      have hsplit : c :: word = d :: (path ++ position) := Option.some.inj hget
      exact ⟨path, position, hposition, (List.cons.inj hsplit).2⟩
    · rintro ⟨path, position, hposition, rfl⟩
      exact ⟨c :: path, position, rfl, hposition, fun _ => List.cons_ne_nil c path⟩
  | succ k =>
    rw [positionAt_succ]
    constructor
    · rintro ⟨path, position, hget, hposition, -⟩
      exact ⟨path ++ position, hget, path, position, hposition, rfl⟩
    · rintro ⟨word, hget, path, position, hposition, rfl⟩
      exact ⟨path, position, hget, hposition, fun h => absurd h (Nat.succ_ne_zero k)⟩

/-- A line without its location has the words after the one that the location ends with; a line
without a location has all of its words. -/
theorem words_stripLocation (hline : isMeaningful line = true) :
    (∀ k, IsLeast {k | EndsLocation (words line) k} k →
      words (stripLocation line) = (words line).drop (k + 1)) ∧
    ((∀ k, ¬EndsLocation (words line) k) → words (stripLocation line) = words line) := by
  obtain ⟨d, hd, hblank⟩ := List.any_eq_true.mp hline
  have hne : words line ≠ [] := (hasWords_words line).ne_nil hd (by simpa using hblank)
  cases htrim : trimStart line with
  | nil =>
    rw [← words_trimStart, htrim] at hne
    exact absurd rfl hne
  | cons c text =>
    -- The search begins behind the first character, within the first word.
    obtain ⟨word, rest, hword, hend, rfl⟩ := exists_split text
    have hc : isBlank c = false := by
      have hstart := startsBlank_trimStart line
      rwa [htrim] at hstart
    have hwords : words line = (c :: word) :: words rest := by
      have hfirst : IsWord (c :: word) :=
        ⟨List.cons_ne_nil c word, List.forall_mem_cons.mpr ⟨hc, hword⟩⟩
      rw [← words_trimStart, htrim, ← List.cons_append, words_append hfirst hend]
    have hfound : Found (word ++ rest) (word :: words rest) :=
      Found.cons hword hend rfl (found_words rest)
    have hstrip : stripLocation line = (afterFirstPosition? (word ++ rest)).getD line := by
      rw [stripLocation, htrim]
    rw [hwords, hstrip]
    simp only [endsLocation_cons]
    cases hfound with
    | after hleast htext hleft =>
      rw [htext, Option.getD_some, hleft]
      refine ⟨fun k hk => ?_, fun hnone => absurd hleast.1 (hnone _)⟩
      rw [IsLeast.unique hk hleast, List.drop_succ_cons, List.drop_succ_cons]
    | nowhere hnone htext =>
      rw [htext, Option.getD_none, hwords]
      exact ⟨fun k hk => absurd hk.1 (hnone k), fun _ => rfl⟩

/-- All of the words are left, or those from one on. -/
theorem words_stripLocation_suffix (hline : isMeaningful line = true) :
    words (stripLocation line) <:+ words line := by
  classical
  obtain ⟨hafter, hall⟩ := words_stripLocation hline
  by_cases hends : ∃ k, EndsLocation (words line) k
  · rw [hafter _ (Nat.isLeast_find hends)]
    exact List.drop_suffix _ _
  · have hsame := hall (not_exists.mp hends)
    exact hsame ▸ List.suffix_refl _

/-! ## Logs -/

/-- Words as a summary: with single spaces between them, unless there are none. -/
def joined? (ws : List (List Char)) : Option String :=
  if ws = [] then none else some (String.ofList (unwords ws))

/-- The summary of a log is what is left of its first line with words. -/
theorem summarize_eq (log : String) :
    summarize log = ((lines log.toList).find? isMeaningful).bind fun line =>
      joined? (words (stripLocation line)) := by
  rw [summarize, summary?]
  cases (lines log.toList).find? isMeaningful with
  | none => rfl
  | some line =>
    have hempty := unwords_eq_nil_iff fun _ => isWord_of_mem_words (s := stripLocation line)
    simp only [Option.bind_eq_bind, Option.bind_some, joined?, List.isEmpty_iff, hempty]
    split <;> rfl

/-- The summary of a log is told by the words of the first line that is not blank. If one of these
words ends in a position, with something in front of it if it is the first word, then the summary
has the words after the first such word; otherwise it has all of them. There is one space between
any two of them, and without words there is no summary. So a summary is not empty, has no other
white space than single spaces between words, and each of its words is a word of the line. -/
theorem summarize_by_words (log : String) :
    ((lines log.toList).find? isMeaningful = none → summarize log = none) ∧
    (∀ line, (lines log.toList).find? isMeaningful = some line →
      let ws := words line
      (∀ k, IsLeast {k | EndsLocation ws k} k → summarize log = joined? (ws.drop (k + 1))) ∧
      ((∀ k, ¬EndsLocation ws k) → summarize log = some (String.ofList (unwords ws)))) ∧
    ∀ summary, summarize log = some summary →
      summary ≠ "" ∧
      (∀ c ∈ summary.toList, isBlank c = true → c = ' ') ∧
      (∀ front c d back, summary.toList = front ++ c :: d :: back →
        ¬(isBlank c = true ∧ isBlank d = true)) ∧
      ∃ line, (lines log.toList).find? isMeaningful = some line ∧
        words summary.toList <:+ words line := by
  rw [summarize_eq]
  refine ⟨?_, ?_, ?_⟩
  · intro hnone
    rw [hnone, Option.bind_none]
  · intro line hfirst ws
    have hline : isMeaningful line = true := List.find?_some hfirst
    obtain ⟨hafter, hall⟩ := words_stripLocation hline
    rw [hfirst, Option.bind_some]
    constructor
    · intro k hleast
      rw [hafter k hleast]
    · intro hnone
      rw [hall hnone]
      obtain ⟨c, hc, hblank⟩ := List.any_eq_true.mp hline
      exact if_neg ((hasWords_words line).ne_nil hc (by simpa using hblank))
  · intro summary hsummary
    obtain ⟨line, hfirst, hjoined⟩ := Option.bind_eq_some_iff.mp hsummary
    have hkept : ∀ word ∈ words (stripLocation line), IsWord word :=
      fun _ hword => isWord_of_mem_words hword
    rw [joined?] at hjoined
    split_ifs at hjoined with hne
    cases hjoined
    rw [String.toList_ofList, words_unwords hkept]
    refine ⟨?_, ?_, ?_, line, hfirst, ?_⟩
    · intro hempty
      have hnil := congrArg String.toList hempty
      rw [String.toList_ofList] at hnil
      exact hne ((unwords_eq_nil_iff hkept).mp hnil)
    · intro c hc hblank
      exact eq_space_of_mem_unwords hkept hc hblank
    · intro front c d back hsplit
      exact not_blank_blank_unwords hkept hsplit
    · exact words_stripLocation_suffix (List.find?_some hfirst)

/-- The first word is no location without a path in front of the position. -/
example : summarize ":1:2: x" = some ":1:2: x" := by decide +kernel

/-- A later word is the end of one with or without. -/
example : summarize "out dir/a.rs :1:2: x" = some "x" := by decide +kernel

end FragmentRunner.Diagnostic
