import FragmentRunner.Proofs.Diagnostic.Summary

/-!
# Diagnostics that begin with their severity

A diagnostic without a location begins with its severity, `error:` or `error[CODE]:`. That word does
not end in a position, so it ends no location by itself. But the path of a location may hold spaces,
and so the severity is taken for the beginning of one if a later word ends in a position: then it is
cut off, together with the message up to that word.

* `NamesError.not_endsInPosition`: a severity is not the end of a location.
* `severity_kept_iff`: when a diagnostic keeps its severity, and what is left of it otherwise.
-/

namespace FragmentRunner.Diagnostic

open Text

variable {word line : List Char} {ws : List (List Char)} {k : Nat}

/-- A word that names the severity of an error, with the code of the error or without. -/
inductive NamesError : List Char → Prop
  | plain : NamesError "error:".toList
  | withCode (code : List Char) : NamesError ("error[".toList ++ code ++ "]:".toList)

/-- A word that names a severity is not empty. -/
theorem NamesError.exists_cons (h : NamesError word) : ∃ rest, word = 'e' :: rest := by
  cases h with
  | plain => exact ⟨_, rfl⟩
  | withCode code => exact ⟨_, rfl⟩

/-- The last two characters of a word that ends in a position are a digit and a colon. -/
theorem EndsInPosition.exists_digit (h : EndsInPosition word) :
    ∃ front digit, isDecimalDigit digit = true ∧ word = front ++ [digit, ':'] := by
  obtain ⟨path, position, ⟨row, column, -, hcolumn, rfl⟩, rfl⟩ := h
  obtain ⟨digits, digit, hlast⟩ := (List.eq_nil_or_concat column).resolve_left hcolumn.ne_nil
  have hdigit : isDecimalDigit digit = true := hcolumn.digits digit (by simp [hlast])
  exact ⟨path ++ ':' :: (row ++ ':' :: digits), digit, hdigit, by simp [hlast]⟩

/-- The severity of an error is not the end of a location. -/
theorem NamesError.not_endsInPosition (h : NamesError word) : ¬EndsInPosition word := by
  intro hends
  obtain ⟨front, digit, hdigit, hsplit⟩ := hends.exists_digit
  -- The character in front of the last colon would be the digit.
  have hlast : ∀ (text : List Char) (c : Char), word = text ++ [c, ':'] → digit = c := by
    rintro text c rfl
    have htails := (List.append_inj' hsplit rfl).2
    exact (List.cons.inj htails).1.symm
  cases h with
  | plain =>
    rw [hlast "erro".toList 'r' rfl] at hdigit
    exact absurd hdigit (by decide)
  | withCode code =>
    rw [hlast ("error[".toList ++ code) ']' rfl] at hdigit
    exact absurd hdigit (by decide)

/-- A location that begins with a severity ends with one of the words after it. -/
theorem NamesError.endsLocation_iff (h : NamesError word) :
    EndsLocation (word :: ws) k ↔ ∃ j, k = j + 1 ∧ PositionAt ws j := by
  obtain ⟨rest, hcons⟩ := h.exists_cons
  constructor
  · intro hends
    cases k with
    | zero =>
      obtain ⟨path, position, hget, hposition, -⟩ := hends
      exact absurd ⟨path, position, hposition, Option.some.inj hget⟩ h.not_endsInPosition
    | succ j =>
      rw [hcons, endsLocation_cons, positionAt_succ] at hends
      exact ⟨j, rfl, hends⟩
  · rintro ⟨j, rfl, hposition⟩
    rw [hcons, endsLocation_cons, positionAt_succ]
    exact hposition

/-- The first word after a severity that ends in a position is where the location ends. -/
theorem NamesError.isLeast_endsLocation (h : NamesError word)
    (hleast : IsLeast {k | PositionAt ws k} k) :
    IsLeast {k | EndsLocation (word :: ws) k} (k + 1) := by
  refine ⟨h.endsLocation_iff.mpr ⟨k, rfl, hleast.1⟩, fun other hother => ?_⟩
  obtain ⟨j, rfl, hposition⟩ := h.endsLocation_iff.mp hother
  exact Nat.succ_le_succ (hleast.2 hposition)

/-- A word that ends in a position stands somewhere among the words. -/
theorem exists_positionAt_iff : (∃ k, PositionAt ws k) ↔ ∃ word ∈ ws, EndsInPosition word := by
  constructor
  · rintro ⟨k, word, hget, hends⟩
    exact ⟨word, List.mem_of_getElem? hget, hends⟩
  · rintro ⟨word, hmem, hends⟩
    obtain ⟨k, hget⟩ := List.mem_iff_getElem?.mp hmem
    exact ⟨k, word, hget, hends⟩

/-- A summary tells which words are in it. -/
theorem eq_of_joined?_eq {others : List (List Char)} (hws : ∀ w ∈ ws, IsWord w)
    (hothers : ∀ w ∈ others, IsWord w)
    (h : joined? ws = some (String.ofList (unwords others))) : ws = others := by
  rw [joined?] at h
  split_ifs at h
  have hunwords : unwords ws = unwords others := String.ofList_injective (Option.some.inj h)
  rw [← words_unwords hws, hunwords, words_unwords hothers]

/-- A diagnostic that begins with the severity of an error is kept as a whole if and only if no
later word of its line ends in a position. Otherwise the words after the first one that does are
left, without the severity; if there are none, there is no summary. -/
theorem severity_kept_iff {log : String}
    (hline : (lines log.toList).find? isMeaningful = some line) (hwords : words line = word :: ws)
    (hword : NamesError word) :
    (summarize log = some (String.ofList (unwords (words line))) ↔
      ∀ later ∈ ws, ¬EndsInPosition later) ∧
    ∀ k, IsLeast {k | PositionAt ws k} k → summarize log = joined? (ws.drop (k + 1)) := by
  classical
  obtain ⟨-, hsummary, -⟩ := summarize_by_words log
  obtain ⟨hcut, hall⟩ := hsummary line hline
  rw [hwords] at hcut hall ⊢
  have hcutAfter : ∀ k, IsLeast {k | PositionAt ws k} k →
      summarize log = joined? (ws.drop (k + 1)) :=
    fun k hleast => hcut (k + 1) (hword.isLeast_endsLocation hleast)
  refine ⟨⟨fun hkept later hlater hends => ?_, fun hnone => hall fun k hends => ?_⟩, hcutAfter⟩
  · -- What is left after a cut has fewer words than the line.
    have hexists := exists_positionAt_iff.mpr ⟨later, hlater, hends⟩
    rw [hcutAfter _ (Nat.isLeast_find hexists)] at hkept
    have hisWord : ∀ w ∈ word :: ws, IsWord w := fun w hw => isWord_of_mem_words (hwords ▸ hw)
    have hleft : ∀ w ∈ ws.drop (Nat.find hexists + 1), IsWord w := fun w hw =>
      hisWord w (List.mem_cons_of_mem word (List.mem_of_mem_drop hw))
    have hlength := congrArg List.length (eq_of_joined?_eq hleft hisWord hkept)
    rw [List.length_drop, List.length_cons] at hlength
    omega
  · obtain ⟨j, -, hposition⟩ := hword.endsLocation_iff.mp hends
    obtain ⟨later, hlater, hends⟩ := exists_positionAt_iff.mp ⟨j, hposition⟩
    exact hnone later hlater hends

/-- A message that names no position is kept behind the severity and its code. -/
theorem severity_kept_with_code :
    let log := "error[E0425]: cannot find value\n --> a.rs:1:5: here\n"
    let line := "error[E0425]: cannot find value".toList
    let later := ["cannot".toList, "find".toList, "value".toList]
    (lines log.toList).find? isMeaningful = some line ∧
    words line = "error[E0425]:".toList :: later ∧
    NamesError "error[E0425]:".toList ∧
    (∀ w ∈ later, ¬EndsInPosition w) ∧
    summarize log = some (String.ofList line) := by
  intro log line later
  have hline : (lines log.toList).find? isMeaningful = some line := by decide +kernel
  have hwords : words line = "error[E0425]:".toList :: later := by decide +kernel
  have hword : NamesError "error[E0425]:".toList := .withCode "E0425".toList
  have hlater : ∀ w ∈ later, ¬EndsInPosition w := by
    intro w hw hends
    obtain ⟨front, digit, -, rfl⟩ := hends.exists_digit
    have hcolon : ∀ w ∈ later, w.getLast? ≠ some ':' := by decide
    exact hcolon _ hw (by simp)
  refine ⟨hline, hwords, hword, hlater, ?_⟩
  rw [(severity_kept_iff hline hwords hword).1.mpr hlater]
  decide +kernel

/-- A message that names a position is cut, and the severity with it. -/
theorem severity_cut :
    let log := "error: see a.rs:1:2: oops"
    (lines log.toList).find? isMeaningful = some log.toList ∧
    words log.toList = ["error:".toList, "see".toList, "a.rs:1:2:".toList, "oops".toList] ∧
    NamesError "error:".toList ∧
    summarize log = some "oops" ∧
    summarize log ≠ some (String.ofList (unwords (words log.toList))) := by
  exact ⟨by decide +kernel, by decide +kernel, .plain, by decide +kernel, by decide +kernel⟩

/-- Where nothing follows the position, there is no summary at all. -/
example : summarize "error: at a.rs:1:2:" = none := by decide +kernel

end FragmentRunner.Diagnostic
