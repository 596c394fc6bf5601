import FragmentRunner.Proofs.Run.Answers
import FragmentRunner.Proofs.Text.Words

/-!
# The first words of a fragment

A fragment is sorted by the words that it begins with, after any white space: `return` is refused,
`use` and `extern crate` are imports, and all else is a statement. A word ends where no identifier
goes on, so `returned` and `use_` are not these words; between `extern` and `crate` there may be any
white space, but there must be some.

* `startsWithKeyword_iff` and `startsWithExternCrate_iff`: what the tests of the first words test.
* `of?_eq_none_iff` and `isImport_iff`: which fragments are refused, and which are imports.
* `add_by_first_words`: what becomes of a fragment that is added.
-/

namespace FragmentRunner

open Text

variable {word start text rest : List Char} {fragment : String}

/-! ## Words at the beginning -/

/-- A text begins with a word: what follows it, if anything, does not continue an identifier. -/
def BeginsWithWord (word text : List Char) : Prop :=
  ∃ rest, text = word ++ rest ∧ ∀ c ∈ rest.head?, continuesIdentifier c = false

/-- A text begins with the words `extern` and `crate`, with white space between them. -/
def BeginsWithExternCrate (text : List Char) : Prop :=
  ∃ gap rest, gap ≠ [] ∧ AllBlank gap ∧ text = "extern".toList ++ (gap ++ rest) ∧
    BeginsWithWord "crate".toList rest

/-- What is left after the beginning of a text. -/
theorem dropStart?_eq_some_iff : dropStart? start text = some rest ↔ text = start ++ rest := by
  induction start generalizing text with
  | nil => simp [dropStart?]
  | cons c start ih =>
    cases text with
    | nil => simp [dropStart?]
    | cons d text =>
      rw [dropStart?, List.cons_append, List.cons.injEq]
      split_ifs with hc
      · rw [ih]
        simp [hc]
      · simp [Ne.symm hc]

/-- A word ends where no identifier goes on. -/
theorem endsWord_iff : endsWord rest = true ↔ ∀ c ∈ rest.head?, continuesIdentifier c = false := by
  cases rest <;> simp [endsWord]

/-- A keyword is looked for behind the white space at the front. -/
theorem startsWithKeyword_iff :
    startsWithKeyword word text = true ↔ BeginsWithWord word (trimStart text) := by
  rw [startsWithKeyword, BeginsWithWord]
  constructor
  · intro h
    split at h
    · next rest hdrop =>
      exact ⟨rest, dropStart?_eq_some_iff.mp hdrop, endsWord_iff.mp h⟩
    · cases h
  · rintro ⟨rest, hsplit, hend⟩
    rw [dropStart?_eq_some_iff.mpr hsplit]
    exact endsWord_iff.mpr hend

/-- A text that begins with a keyword does not begin with white space. -/
theorem BeginsWithWord.startsBlank (h : BeginsWithWord word text) (hne : word ≠ [])
    (hword : Text.startsBlank word = false) : Text.startsBlank text = false := by
  obtain ⟨rest, rfl, -⟩ := h
  obtain ⟨c, word, rfl⟩ := List.exists_cons_of_ne_nil hne
  exact hword

/-- The two words `extern` and `crate` are looked for behind the white space at the front. -/
theorem startsWithExternCrate_iff :
    startsWithExternCrate text = true ↔ BeginsWithExternCrate (trimStart text) := by
  rw [startsWithExternCrate, BeginsWithExternCrate]
  constructor
  · intro h
    split at h
    · next rest hdrop =>
      rw [Bool.and_eq_true, startsWithKeyword_iff] at h
      obtain ⟨hcrate, hblank⟩ := h
      refine ⟨rest.takeWhile isBlank, trimStart rest, ?_, fun c hc => List.mem_takeWhile_imp hc,
        ?_, hcrate⟩
      · cases rest with
        | nil => cases hblank
        | cons c rest =>
          have hc : isBlank c = true := hblank
          rw [List.takeWhile_cons_of_pos hc]
          exact List.cons_ne_nil _ _
      · have hrest : rest.takeWhile isBlank ++ trimStart rest = rest :=
          List.takeWhile_append_dropWhile
        rw [hrest]
        exact dropStart?_eq_some_iff.mp hdrop
    · cases h
  · rintro ⟨gap, rest, hne, hgap, hsplit, hcrate⟩
    have htrim : trimStart (gap ++ rest) = rest := by
      rw [trimStart, List.dropWhile_append_of_pos hgap]
      exact dropWhile_isBlank_of_not (hcrate.startsBlank (by decide) (by decide))
    obtain ⟨c, gap, rfl⟩ := List.exists_cons_of_ne_nil hne
    have hblank : Text.startsBlank (c :: gap ++ rest) = true := hgap c List.mem_cons_self
    rw [dropStart?_eq_some_iff.mpr hsplit]
    simp only [Bool.and_eq_true, startsWithKeyword_iff, htrim, hblank, and_true]
    exact hcrate

/-! ## Kinds -/

/-- The fragments that are refused. -/
theorem of?_eq_none_iff : FragmentKind.of? fragment = none ↔
    BeginsWithWord "return".toList (trimStart fragment.toList) := by
  rw [← startsWithKeyword_iff, ← isReturn, FragmentKind.of?]
  split_ifs with hreturn himport <;> simp [hreturn]

/-- The first words of an import. -/
theorem isImport_iff : isImport fragment = true ↔
    BeginsWithWord "use".toList (trimStart fragment.toList) ∨
      BeginsWithExternCrate (trimStart fragment.toList) := by
  rw [isImport, Bool.or_eq_true, startsWithKeyword_iff, startsWithExternCrate_iff]

/-- The fragments that are imports. -/
theorem of?_eq_imported_iff : FragmentKind.of? fragment = some .imported ↔
    FragmentKind.of? fragment ≠ none ∧ isImport fragment = true := by
  rw [FragmentKind.of?]
  split_ifs with hreturn himport
  · simp
  · simp [himport]
  · simp [himport]

/-- All other fragments are statements. -/
theorem of?_eq_statement_iff : FragmentKind.of? fragment = some .statement ↔
    FragmentKind.of? fragment ≠ none ∧ ¬isImport fragment = true := by
  rw [FragmentKind.of?]
  split_ifs with hreturn himport
  · simp
  · simp [himport]
  · simp [himport]

/-! ## Drafts -/

/-- A draft with one more fragment is another draft. -/
theorem Draft.addFragment_ne_self (draft : Draft) (fragment : String) (kind : FragmentKind) :
    draft.addFragment fragment kind ≠ draft := by
  intro h
  cases kind with
  | imported =>
    have himports := congrArg (·.imports.length) h
    simp [Draft.addFragment, Draft.addImport] at himports
  | statement =>
    have hstatements := congrArg (·.statements.length) h
    simp [Draft.addFragment, Draft.addStatement] at hstatements

/-- Where a fragment went can be told from the draft. -/
theorem Draft.addFragment_inj {draft : Draft} {kind kind' : FragmentKind} :
    draft.addFragment fragment kind = draft.addFragment fragment kind' ↔ kind = kind' := by
  constructor
  · intro h
    have himports := congrArg (·.imports.length) h
    cases kind <;> cases kind' <;>
      simp [Draft.addFragment, Draft.addImport, Draft.addStatement] at himports ⊢
  · rintro rfl
    rfl

namespace Run

/-- A fragment of a kind goes to the buffer for it, and no other fragment does. -/
theorem added_iff (kind : FragmentKind) (s : Interpreter) (w : World) :
    (SharedInterpreter.add fragment s w).2.1 =
        { s with draft := s.draft.addFragment fragment kind } ↔
      FragmentKind.of? fragment = some kind := by
  cases hkind : FragmentKind.of? fragment with
  | none =>
    rw [add_of_refused s w hkind]
    have hother := Draft.addFragment_ne_self s.draft fragment kind
    constructor
    · intro h
      exact absurd (congrArg Interpreter.draft h).symm hother
    · nofun
  | some own =>
    rw [add_of_kind s w hkind, Option.some_inj, ← Draft.addFragment_inj]
    constructor
    · exact congrArg Interpreter.draft
    · intro h
      rw [h]

/-- A fragment is refused if and only if its first word, after any white space, is `return`, and
then nothing is changed. Any other fragment is appended as it was entered, to the imports if it
begins with the word `use` or with the words `extern crate`, and to the statements if not. Nothing
else of the interpreter is changed, and of the world only what has been logged. -/
theorem add_by_first_words (fragment : String) (s : Interpreter) (w : World) :
    let t := trimStart fragment.toList
    let refused := BeginsWithWord "return".toList t
    let imported := BeginsWithWord "use".toList t ∨ BeginsWithExternCrate t
    let added := SharedInterpreter.add fragment s w
    (∀ e, added.1 = .error e ↔ e = .returnStatement ∧ refused) ∧
    (refused → added.2 = (s, w)) ∧
    (added.2.1 = { s with draft := { s.draft with imports := s.draft.imports ++ [fragment] } } ↔
      ¬refused ∧ imported) ∧
    (added.2.1 =
        { s with draft := { s.draft with statements := s.draft.statements ++ [fragment] } } ↔
      ¬refused ∧ ¬imported) ∧
    ∃ logged, added.2.2 = { w with history := w.history ++ logged } := by
  intro t refused imported added
  have hrefused : FragmentKind.of? fragment = none ↔ refused := of?_eq_none_iff
  have himported : isImport fragment = true ↔ imported := isImport_iff
  rw [← hrefused, ← himported]
  refine ⟨?_, ?_, ?_, ?_, ?_⟩
  · intro e
    cases hkind : FragmentKind.of? fragment with
    | none => simp [added, add_of_refused s w hkind, eq_comm]
    | some kind => simp [added, add_of_kind s w hkind]
  · intro hnone
    simp only [added, add_of_refused s w hnone]
  · exact (added_iff .imported s w).trans of?_eq_imported_iff
  · exact (added_iff .statement s w).trans of?_eq_statement_iff
  · cases hkind : FragmentKind.of? fragment with
    | none =>
      refine ⟨[], ?_⟩
      simp only [added, add_of_refused s w hkind, List.append_nil]
    | some kind =>
      simp only [added, add_of_kind s w hkind, afterAccepting]
      split_ifs
      · exact ⟨_, rfl⟩
      · exact ⟨[], by rw [List.append_nil]⟩

end Run

end FragmentRunner
