import FragmentRunner.Text.Blank
import Mathlib.Data.List.DropRight

/-!
# Words and the white space around them

`HasWords` says what the words of a text are without saying how they are found: white space belongs
to no word, and a word goes on until white space or the end of the text. `words` finds them, and
`unwords` writes them out again.

* `hasWords_iff`: a text has the words that are found in it, and no others.
* `words_unwords`: words are found again in what they are written out as.
* `trim_trim` and `trim_blank_append_blank`: what trimming leaves, and what it drops.
-/

namespace FragmentRunner.Text

variable {s word : List Char} {ws : List (List Char)} {c : Char}

/-- All of a text is white space. -/
def AllBlank (s : List Char) : Prop :=
  ∀ c ∈ s, isBlank c = true

/-- No white space is in a text. -/
def NoBlank (s : List Char) : Prop :=
  ∀ c ∈ s, isBlank c = false

-- The list is searched, although there are only finitely many characters to try.
instance (s : List Char) : Decidable (AllBlank s) :=
  List.decidableBAll (fun c => isBlank c = true) s

instance (s : List Char) : Decidable (NoBlank s) :=
  List.decidableBAll (fun c => isBlank c = false) s

/-- A text that is one word: it is not empty, and no white space is in it. -/
structure IsWord (word : List Char) : Prop where
  ne_nil : word ≠ []
  not_blank : NoBlank word

/-- A text before which a word ends: it is empty, or begins with white space. -/
def EndsBefore (rest : List Char) : Prop :=
  rest = [] ∨ startsBlank rest = true

/-- White space ends a word. -/
theorem endsBefore_cons (hc : isBlank c = true) (s : List Char) : EndsBefore (c :: s) :=
  .inr hc

/-- A text is cut where its first word ends; if it begins with white space, nothing is in front. -/
theorem exists_split (s : List Char) :
    ∃ word rest, NoBlank word ∧ EndsBefore rest ∧ s = word ++ rest := by
  induction s with
  | nil => exact ⟨[], [], List.forall_mem_nil _, .inl rfl, rfl⟩
  | cons c s ih =>
    by_cases hc : isBlank c = true
    · exact ⟨[], c :: s, List.forall_mem_nil _, endsBefore_cons hc s, rfl⟩
    · obtain ⟨word, rest, hword, hend, rfl⟩ := ih
      have hfirst : NoBlank (c :: word) := List.forall_mem_cons.mpr ⟨by simpa using hc, hword⟩
      exact ⟨c :: word, rest, hfirst, hend, rfl⟩

/-- A text has these words, in this order. -/
inductive HasWords : List Char → List (List Char) → Prop
  | nil : HasWords [] []
  | blank {c : Char} {s : List Char} {ws : List (List Char)} (hc : isBlank c = true)
      (hs : HasWords s ws) : HasWords (c :: s) ws
  | word {word rest : List Char} {ws : List (List Char)} (hword : IsWord word)
      (hend : EndsBefore rest) (hrest : HasWords rest ws) : HasWords (word ++ rest) (word :: ws)

/-! ## Finding words -/

/-- White space separates the words of a text. -/
theorem words_append_cons (hc : isBlank c = true) (s t : List Char) :
    words (s ++ c :: t) = words s ++ words t := by
  rw [words, pieces_append_cons hc, List.filter_append, words, words]

/-- White space at the front belongs to no word. -/
theorem words_cons_of_blank (hc : isBlank c = true) (s : List Char) : words (c :: s) = words s :=
  words_append_cons hc [] s

/-- A word is its own only word. -/
theorem words_of_isWord (h : IsWord word) : words word = [word] := by
  rw [words, pieces_of_forall_not h.not_blank]
  simp [h.ne_nil]

/-- The first word is followed by the words of the rest. -/
theorem words_append (hword : IsWord word) {rest : List Char} (hend : EndsBefore rest) :
    words (word ++ rest) = word :: words rest := by
  cases rest with
  | nil => rw [List.append_nil, words_of_isWord hword]; rfl
  | cons c rest =>
    obtain hnil | hc := hend
    · cases hnil
    · rw [words_append_cons hc, words_of_isWord hword, words_cons_of_blank hc,
        List.singleton_append]

/-- What is found are words. -/
theorem isWord_of_mem_words (h : word ∈ words s) : IsWord word := by
  obtain ⟨hpiece, hne⟩ := List.mem_filter.mp h
  exact ⟨by simpa using hne, fun c hc => not_of_mem_pieces hpiece hc⟩

/-- The words that are found in a text are its words. -/
theorem hasWords_words (s : List Char) : HasWords s (words s) := by
  induction hn : s.length using Nat.strongRecOn generalizing s with
  | _ n ih =>
    cases s with
    | nil => exact .nil
    | cons c s =>
      rw [List.length_cons] at hn
      by_cases hc : isBlank c = true
      · rw [words_cons_of_blank hc]
        exact .blank hc (ih s.length (by omega) s rfl)
      · -- The word goes on to where the next one could begin, and what follows is shorter.
        obtain ⟨word, rest, hword, hend, rfl⟩ := exists_split s
        have hfirst : IsWord (c :: word) :=
          ⟨List.cons_ne_nil c word, List.forall_mem_cons.mpr ⟨by simpa using hc, hword⟩⟩
        rw [List.length_append] at hn
        rw [← List.cons_append, words_append hfirst hend]
        exact .word hfirst hend (ih rest.length (by omega) rest rfl)

/-- A text has the words that are found in it, and no others. -/
theorem hasWords_iff : HasWords s ws ↔ words s = ws := by
  constructor
  · intro h
    induction h with
    | nil => rfl
    | blank hc _ ih => rw [words_cons_of_blank hc, ih]
    | word hword hend _ ih => rw [words_append hword hend, ih]
  · rintro rfl
    exact hasWords_words s

/-- What is no white space belongs to a word. -/
theorem HasWords.ne_nil (h : HasWords s ws) (hc : c ∈ s) (hblank : isBlank c = false) :
    ws ≠ [] := by
  induction h with
  | nil => cases hc
  | blank hd _ ih =>
    rcases List.mem_cons.mp hc with rfl | hc
    · rw [hd] at hblank
      cases hblank
    · exact ih hc
  | word => exact List.cons_ne_nil _ _

/-- What stands before the first white space is read off a text. -/
theorem takeWhile_append_of_endsBefore {rest : List Char} (hword : NoBlank word)
    (hend : EndsBefore rest) : (word ++ rest).takeWhile (fun c => !isBlank c) = word := by
  rw [List.takeWhile_append_of_pos fun c hc => by simp [hword c hc]]
  cases rest with
  | nil => simp
  | cons c rest =>
    obtain hnil | hc := hend
    · cases hnil
    · have hblank : isBlank c = true := hc
      rw [List.takeWhile_cons_of_neg (by simp [hblank]), List.append_nil]

/-- What stands from the first white space on is read off a text. -/
theorem dropWhile_append_of_endsBefore {rest : List Char} (hword : NoBlank word)
    (hend : EndsBefore rest) : (word ++ rest).dropWhile (fun c => !isBlank c) = rest := by
  have hsplit := (word ++ rest).takeWhile_append_dropWhile (p := fun c => !isBlank c)
  rw [takeWhile_append_of_endsBefore hword hend] at hsplit
  exact List.append_cancel_left hsplit

/-- Where two texts are cut at the end of their first words, equal texts have equal parts. -/
theorem append_inj_of_endsBefore {word' rest rest' : List Char}
    (hword : NoBlank word) (hword' : NoBlank word')
    (hend : EndsBefore rest) (hend' : EndsBefore rest') (h : word ++ rest = word' ++ rest') :
    word = word' ∧ rest = rest' := by
  constructor
  · rw [← takeWhile_append_of_endsBefore hword hend, h,
      takeWhile_append_of_endsBefore hword' hend']
  · rw [← dropWhile_append_of_endsBefore hword hend, h,
      dropWhile_append_of_endsBefore hword' hend']

/-! ## Writing words out -/

/-- What stands in words that are written out is a space or stands in one of the words. -/
theorem eq_space_or_mem_of_mem_unwords (h : c ∈ unwords ws) : c = ' ' ∨ ∃ word ∈ ws, c ∈ word := by
  induction ws with
  | nil => cases h
  | cons first others ih =>
    by_cases hlast : others = []
    · rw [hlast, unwords, List.intercalate_singleton] at h
      exact .inr ⟨first, List.mem_cons_self, h⟩
    · rw [unwords, List.intercalate_cons_of_ne_nil hlast, List.mem_append, List.mem_append] at h
      rcases h with (h | h) | h
      · exact .inr ⟨first, List.mem_cons_self, h⟩
      · exact .inl (List.mem_singleton.mp h)
      · exact (ih h).imp_right fun ⟨word, hword, hc⟩ => ⟨word, List.mem_cons_of_mem _ hword, hc⟩

section Unwords

variable (h : ∀ word ∈ ws, IsWord word)

include h

/-- Words that are written out are cut at the spaces only. -/
theorem pieces_unwords (hne : ws ≠ []) : pieces isBlank (unwords ws) = ws :=
  pieces_intercalate (by decide) hne fun word hword => (h word hword).not_blank

/-- Words are found again in what they are written out as. -/
theorem words_unwords : words (unwords ws) = ws := by
  by_cases hne : ws = []
  · rw [hne]
    rfl
  · rw [words, pieces_unwords h hne, List.filter_eq_self]
    intro word hword
    simpa using (h word hword).ne_nil

/-- Only no words at all are written out as nothing. -/
theorem unwords_eq_nil_iff : unwords ws = [] ↔ ws = [] := by
  constructor
  · intro hnil
    rw [← words_unwords h, hnil]
    rfl
  · rintro rfl
    rfl

/-- The only white space between words that are written out are spaces. -/
theorem eq_space_of_mem_unwords (hc : c ∈ unwords ws) (hblank : isBlank c = true) : c = ' ' := by
  refine (eq_space_or_mem_of_mem_unwords hc).resolve_right ?_
  rintro ⟨word, hword, hmem⟩
  rw [(h word hword).not_blank c hmem] at hblank
  cases hblank

/-- No white space follows on white space in words that are written out. -/
theorem not_blank_blank_unwords {d : Char} {front back : List Char}
    (hsplit : unwords ws = front ++ c :: d :: back) :
    ¬(isBlank c = true ∧ isBlank d = true) := by
  rintro ⟨hc, hd⟩
  have hne : ws ≠ [] := by
    rintro rfl
    simp [unwords] at hsplit
  -- Between the two there would be an empty piece.
  have hpieces := pieces_unwords h hne
  rw [hsplit, pieces_append_cons hc, pieces, if_pos hd] at hpieces
  have hempty : ([] : List Char) ∈ ws := by
    rw [← hpieces]
    simp
  exact (h [] hempty).ne_nil rfl

end Unwords

/-! ## Trimming -/

/-- Without the white space at its front a text does not begin with any. -/
theorem startsBlank_trimStart (s : List Char) : startsBlank (trimStart s) = false := by
  cases htrim : trimStart s with
  | nil => rfl
  | cons c rest =>
    have hc := List.head?_dropWhile_not isBlank s
    rw [trimStart] at htrim
    rw [htrim] at hc
    exact hc

/-- Trimming the end leaves the beginning as it is. -/
theorem startsBlank_trimEnd (h : startsBlank s = false) : startsBlank (trimEnd s) = false := by
  obtain ⟨dropped, hsplit⟩ : trimEnd s <+: s := List.rdropWhile_prefix isBlank s
  cases htrim : trimEnd s with
  | nil => rfl
  | cons c rest =>
    rw [← hsplit, htrim] at h
    exact h

/-- A trimmed text does not begin with white space. -/
theorem startsBlank_trim (s : List Char) : startsBlank (trim s) = false :=
  startsBlank_trimEnd (startsBlank_trimStart s)

/-- A trimmed text does not end with white space. -/
theorem startsBlank_reverse_trim (s : List Char) : startsBlank (trim s).reverse = false := by
  rw [trim, trimEnd, List.reverse_reverse]
  exact startsBlank_trimStart (trimStart s).reverse

/-- A trimmed text is not trimmed any further. -/
theorem trim_trim (s : List Char) : trim (trim s) = trim s :=
  trim_eq_self (startsBlank_trim s) (startsBlank_reverse_trim s)

/-- White space at the front is trimmed. -/
theorem trim_cons_of_blank (hc : isBlank c = true) (s : List Char) : trim (c :: s) = trim s := by
  rw [trim, trim, trimStart, List.dropWhile_cons_of_pos hc, trimStart]

/-- Trimming drops the white space at both ends. -/
theorem trim_blank_append_blank {before after : List Char} (hbefore : AllBlank before)
    (hafter : AllBlank after) (s : List Char) : trim (before ++ s ++ after) = trim s := by
  have hend : ∀ s : List Char, trimEnd (s ++ after) = trimEnd s := by
    intro s
    rw [trimEnd, trimEnd, List.reverse_append, List.dropWhile_append_of_pos]
    intro c hc
    exact hafter c (List.mem_reverse.mp hc)
  rw [trim, trim, trimStart, trimStart, List.append_assoc, List.dropWhile_append_of_pos hbefore,
    List.dropWhile_append]
  split
  · next hnil =>
    -- Nothing but white space is left.
    rw [List.isEmpty_iff] at hnil
    rw [hnil, List.dropWhile_eq_nil_iff.mpr hafter]
  · exact hend _

/-- A text that is trimmed to nothing is white space. -/
theorem allBlank_of_trim_eq_nil (h : trim s = []) : AllBlank s := by
  rw [trim, trimEnd, List.reverse_eq_nil_iff, List.dropWhile_eq_nil_iff] at h
  -- What is trimmed at the front does not begin with white space, so it is empty.
  have hstart := startsBlank_trimStart s
  cases htrim : trimStart s with
  | nil => exact List.dropWhile_eq_nil_iff.mp htrim
  | cons c rest =>
    rw [htrim] at h hstart
    rw [startsBlank, h c (by simp)] at hstart
    cases hstart

/-- White space at the front of a text is in none of its words. -/
theorem words_trimStart (s : List Char) : words (trimStart s) = words s := by
  induction s with
  | nil => rfl
  | cons c s ih =>
    by_cases hc : isBlank c = true
    · rw [trimStart, List.dropWhile_cons_of_pos hc, words_cons_of_blank hc, ← trimStart, ih]
    · rw [trimStart, List.dropWhile_cons_of_neg hc]

end FragmentRunner.Text
