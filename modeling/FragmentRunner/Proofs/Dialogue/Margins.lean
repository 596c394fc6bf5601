import FragmentRunner.Proofs.Dialogue.Answering
import FragmentRunner.Proofs.Fragment.FirstWords
import FragmentRunner.Proofs.Text.Words

/-!
# White space around a fragment

The dialogue trims a line before it adds it, while other callers add a text as they have it. Both
come to the same, since the kind of a fragment does not depend on the white space around it: white
space is in no identifier, so a keyword ends where the white space behind it begins, and it ends
just as well if that white space is gone. The white space inside of `extern crate` is kept by
trimming.

* `beginsWithWord_append_iff`: white space behind a text does not change the word that it begins
  with.
* `of?_margins`: nor does white space on either side change the kind of a fragment.
* `added_as_entered`: a line is added as its trimmed text is.
-/

namespace FragmentRunner

open Text

/-! ## White space in front of a text and behind it -/

section Margins

variable {before text after front rest word : List Char} {c : Char}

/-- White space continues no identifier. -/
theorem continuesIdentifier_of_isBlank (h : isBlank c = true) : continuesIdentifier c = false := by
  rw [continuesIdentifier, CodeRanges.not_has_of_has (by decide +kernel) h,
    CodeRanges.not_has_of_has (by decide +kernel) h, Bool.or_false]

/-- What begins a text with white space behind it, and does not end with white space, begins the
text itself. -/
theorem exists_rest_of_append_blank (hfront : startsBlank front.reverse = false)
    (hafter : AllBlank after) (h : text ++ after = front ++ rest) :
    ∃ more, text = front ++ more ∧ rest = more ++ after := by
  rcases List.append_eq_append_iff.mp h with ⟨middle, rfl, hmiddle⟩ | ⟨more, htext, hrest⟩
  · -- The part of `front` that is not in `text` is white space, so there is none.
    obtain rfl | ⟨middle, last, rfl⟩ := List.eq_nil_or_concat middle
    · exact ⟨[], by simp, by simpa using hmiddle.symm⟩
    · have hlast : isBlank last = true := hafter last (by simp [hmiddle])
      simp [startsBlank, hlast] at hfront
  · exact ⟨more, htext, hrest⟩

/-- White space behind a text does not change the word that it begins with. -/
theorem beginsWithWord_append_iff (hword : startsBlank word.reverse = false)
    (hafter : AllBlank after) :
    BeginsWithWord word (text ++ after) ↔ BeginsWithWord word text := by
  constructor
  · rintro ⟨rest, hsplit, hend⟩
    obtain ⟨more, rfl, rfl⟩ := exists_rest_of_append_blank hword hafter hsplit
    exact ⟨more, rfl, fun c hc => hend c (by simp_all [List.head?_append])⟩
  · rintro ⟨rest, rfl, hend⟩
    refine ⟨rest ++ after, by rw [List.append_assoc], fun c hc => ?_⟩
    cases rest with
    | nil => exact continuesIdentifier_of_isBlank (hafter c (List.mem_of_mem_head? hc))
    | cons d rest => exact hend c hc

/-- The words `extern` and `crate` with a gap between them are one beginning of a text. -/
theorem beginsWithExternCrate_iff : BeginsWithExternCrate text ↔
    ∃ gap, gap ≠ [] ∧ AllBlank gap ∧
      BeginsWithWord ("extern".toList ++ gap ++ "crate".toList) text := by
  constructor
  · rintro ⟨gap, rest, hne, hgap, rfl, more, rfl, hend⟩
    exact ⟨gap, hne, hgap, more, by simp, hend⟩
  · rintro ⟨gap, hne, hgap, more, rfl, hend⟩
    exact ⟨gap, "crate".toList ++ more, hne, hgap, by simp, more, rfl, hend⟩

/-- White space behind a text does not change whether it begins with `extern crate`. -/
theorem beginsWithExternCrate_append_iff (hafter : AllBlank after) :
    BeginsWithExternCrate (text ++ after) ↔ BeginsWithExternCrate text := by
  have hword (gap : List Char) :
      startsBlank ("extern".toList ++ gap ++ "crate".toList).reverse = false := by
    rw [List.reverse_append]
    exact (by decide : startsBlank "crate".toList.reverse = false)
  simp only [beginsWithExternCrate_iff, beginsWithWord_append_iff (hword _) hafter]

/-- Of the white space around a text, what is behind it is left when the beginning is trimmed, or
nothing if the text is all white space. -/
theorem exists_trimStart_margins (text : List Char) (hbefore : AllBlank before)
    (hafter : AllBlank after) :
    ∃ left, AllBlank left ∧ trimStart (before ++ text ++ after) = trimStart text ++ left := by
  rw [trimStart, List.append_assoc, List.dropWhile_append_of_pos hbefore, List.dropWhile_append,
    ← trimStart]
  split
  · next hempty =>
    rw [List.isEmpty_iff.mp hempty, List.dropWhile_eq_nil_iff.mpr hafter]
    exact ⟨[], List.forall_mem_nil _, rfl⟩
  · exact ⟨after, hafter, rfl⟩

/-- A keyword is found in a text if and only if it is found with white space around the text. -/
theorem startsWithKeyword_margins (hword : startsBlank word.reverse = false)
    (hbefore : AllBlank before) (hafter : AllBlank after) :
    startsWithKeyword word (before ++ text ++ after) = startsWithKeyword word text := by
  obtain ⟨left, hleft, htrim⟩ := exists_trimStart_margins text hbefore hafter
  rw [Bool.eq_iff_iff, startsWithKeyword_iff, startsWithKeyword_iff, htrim,
    beginsWithWord_append_iff hword hleft]

/-- The same holds of `extern crate`. -/
theorem startsWithExternCrate_margins (hbefore : AllBlank before) (hafter : AllBlank after) :
    startsWithExternCrate (before ++ text ++ after) = startsWithExternCrate text := by
  obtain ⟨left, hleft, htrim⟩ := exists_trimStart_margins text hbefore hafter
  rw [Bool.eq_iff_iff, startsWithExternCrate_iff, startsWithExternCrate_iff, htrim,
    beginsWithExternCrate_append_iff hleft]

/-- A text is its trimmed text with white space around it. -/
theorem exists_margins (text : List Char) :
    ∃ before after, AllBlank before ∧ AllBlank after ∧ text = before ++ trim text ++ after := by
  refine ⟨text.takeWhile isBlank, (trimStart text).rtakeWhile isBlank,
    fun c hc => List.mem_takeWhile_imp hc, fun c hc => List.mem_rtakeWhile_imp hc, ?_⟩
  have hend : trim text ++ (trimStart text).rtakeWhile isBlank = trimStart text :=
    List.rdropWhile_append_rtakeWhile
  rw [List.append_assoc, hend]
  exact List.takeWhile_append_dropWhile.symm

end Margins

/-! ## Fragments -/

section Fragments

variable {before text after : String}

/-- White space around a fragment does not change its kind. -/
theorem of?_margins (text : String) (hbefore : AllBlank before.toList)
    (hafter : AllBlank after.toList) :
    FragmentKind.of? (before ++ text ++ after) = FragmentKind.of? text := by
  have hkeyword (word : List Char) (hword : startsBlank word.reverse = false) :
      startsWithKeyword word (before ++ text ++ after).toList =
        startsWithKeyword word text.toList := by
    rw [String.toList_append, String.toList_append]
    exact startsWithKeyword_margins hword hbefore hafter
  have hreturn : isReturn (before ++ text ++ after) = isReturn text :=
    hkeyword "return".toList (by decide)
  have himport : isImport (before ++ text ++ after) = isImport text := by
    rw [isImport, isImport, hkeyword "use".toList (by decide), String.toList_append,
      String.toList_append, startsWithExternCrate_margins hbefore hafter]
  rw [FragmentKind.of?, FragmentKind.of?, hreturn, himport]

/-- A line has the kind of its trimmed text. -/
theorem of?_trimLine (line : String) :
    FragmentKind.of? line = FragmentKind.of? (Dialogue.trimLine line) := by
  obtain ⟨before, after, hbefore, hafter, hsplit⟩ := exists_margins line.toList
  have hline : line = String.ofList before ++ Dialogue.trimLine line ++ String.ofList after := by
    rw [← String.toList_inj]
    simpa [Dialogue.trimLine] using hsplit
  refine (congrArg FragmentKind.of? hline).trans (of?_margins _ ?_ ?_)
  · rwa [String.toList_ofList]
  · rwa [String.toList_ofList]

/-- Whether a fragment is accepted is read off its kind. -/
theorem Run.fst_add_congr {other : String} (h : FragmentKind.of? other = FragmentKind.of? text)
    (s : Interpreter) (w : World) :
    (SharedInterpreter.add other s w).1 = (SharedInterpreter.add text s w).1 := by
  cases hkind : FragmentKind.of? text with
  | none => rw [add_of_refused s w hkind, add_of_refused s w (h.trans hkind)]
  | some kind => rw [add_of_kind s w hkind, add_of_kind s w (h.trans hkind)]

end Fragments

namespace Dialogue

open Run

/-- A line that is a fragment is answered with what adding its trimmed text comes to. -/
theorem respond_of_fragment {line : String}
    (h : LineCommand.parse (trimLine line) = .fragment (trimLine line)) (colors : Bool)
    (s : Interpreter) (w : World) :
    respond colors line s w =
      ((Remark.ofAnswer (.added (SharedInterpreter.add (trimLine line) s w).1)).reply colors,
        (SharedInterpreter.add (trimLine line) s w).2) := by
  rw [respond_eq, h, afterCall, call?, Option.elim_some, perform_add]
  rfl

/-- White space around a text changes neither whether it is accepted as a fragment nor which buffer
it goes to. So a line that is a fragment is answered, although it is trimmed, as adding it as it
stands would be answered: with silence if that were accepted, and then it goes to the same buffer,
and with the complaint about it if that were refused, and then nothing is changed. -/
theorem added_as_entered (colors : Bool) (before text after line : String) (s : Interpreter)
    (w : World) (hbefore : AllBlank before.toList) (hafter : AllBlank after.toList)
    (hline : LineCommand.parse (trimLine line) = .fragment (trimLine line)) :
    let entered := SharedInterpreter.add (before ++ text ++ after) s w
    let bare := SharedInterpreter.add text s w
    let answered := respond colors line s w
    let added := SharedInterpreter.add line s w
    entered.1 = bare.1 ∧
    (∀ kind, entered.2.1 = { s with draft := s.draft.addFragment (before ++ text ++ after) kind } ↔
      bare.2.1 = { s with draft := s.draft.addFragment text kind }) ∧
    (answered.1 = .silence ↔ added.1 = .ok ()) ∧
    (∀ e, added.1 = .error e → answered = (complaint colors e.message, s, w)) ∧
    (∀ kind, answered.2.1 = { s with draft := s.draft.addFragment (trimLine line) kind } ↔
      added.2.1 = { s with draft := s.draft.addFragment line kind }) := by
  intro entered bare answered added
  have hmargins := of?_margins text hbefore hafter
  have htrimmed : FragmentKind.of? line = FragmentKind.of? (trimLine line) := of?_trimLine line
  have hanswered : answered = _ := respond_of_fragment hline colors s w
  have hadded : added.1 = (SharedInterpreter.add (trimLine line) s w).1 := fst_add_congr htrimmed s w
  refine ⟨fst_add_congr hmargins s w, fun kind => ?_, ?_, fun e he => ?_, fun kind => ?_⟩
  · rw [added_iff, added_iff, hmargins]
  · rw [hanswered, hadded]
    rcases (SharedInterpreter.add (trimLine line) s w).1 with e | ⟨⟩ <;>
      simp [Remark.ofAnswer, Remark.reply, complaint]
  · rw [hadded] at he
    have hrefused : FragmentKind.of? (trimLine line) = none := by
      cases hkind : FragmentKind.of? (trimLine line) with
      | none => rfl
      | some kind => simp [add_of_kind s w hkind] at he
    rw [hanswered, he, add_of_refused s w hrefused]
    rfl
  · rw [hanswered, added_iff, added_iff, htrimmed]

/-- Without the white space behind it `use` is still a keyword, as `return` is with other white
space around it. -/
theorem keyword_at_end_of_line :
    let s := Interpreter.new (.ofString "out") {}
    let w := OutputDirectory.withOutput
    let line := "\tuse\u00a0"
    AllBlank "\u3000".toList ∧ AllBlank "\u2003\n".toList ∧
    LineCommand.parse (trimLine line) = .fragment (trimLine line) ∧
    (SharedInterpreter.add "\u3000return\u2003\n" s w).1 = .error .returnStatement ∧
    (respond false line s w).2.1 = s.addImport "use" := by
  intro s w line
  have hbefore : AllBlank "\u3000".toList := by decide +kernel
  have hafter : AllBlank "\u2003\n".toList := by decide +kernel
  have hline : LineCommand.parse (trimLine line) = .fragment (trimLine line) := by decide +kernel
  obtain ⟨hentered, -, -, -, hkind⟩ :=
    added_as_entered false "\u3000" "return" "\u2003\n" line s w hbefore hafter hline
  refine ⟨hbefore, hafter, hline, hentered.trans (by decide +kernel), ?_⟩
  have himported := (hkind .imported).mpr (by decide +kernel)
  have htrimmed : trimLine line = "use" := by decide +kernel
  rw [himported, htrimmed]
  rfl

end Dialogue

end FragmentRunner
