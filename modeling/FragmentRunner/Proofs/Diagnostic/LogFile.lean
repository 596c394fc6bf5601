import FragmentRunner.Proofs.Diagnostic.Summary
import FragmentRunner.Proofs.Text.Decoding

/-!
# Summaries of log files

A log file holds bytes, and they need not be well-formed UTF-8: a compiler may be killed within a
character. The summary depends only on the bytes up to the first line that is not blank. A line feed
separates the bytes before it from those after it, however ill formed both are, and so it separates
the lines that are decoded from them.

* `lines_decodeLossy_append`: the lines of bytes, by parts at a line feed.
* `summarizeBytes_append`: what follows a line that is not blank is not looked at.
* `summary_of_log_file`: the summary of a file that cannot be read, of a text, and of any bytes.
-/

namespace FragmentRunner

namespace Text

/-- A line feed ends the lines before it, and the lines after it begin anew. -/
theorem linesBy_append {α : Type} [DecidableEq α] (feed ret : α) (s t : List α) :
    linesBy feed ret (s ++ feed :: t) = linesBy feed ret (s ++ [feed]) ++ linesBy feed ret t := by
  -- The pieces before the line feed are lines, whatever follows.
  have hfront : ∀ t, linesBy feed ret (s ++ feed :: t) =
      (pieces (· = feed) s).map (dropReturn ret) ++ linesBy feed ret t := by
    intro t
    have hne := pieces_ne_nil (fun c => decide (c = feed)) t
    have hparts : pieces (fun c => decide (c = feed)) (s ++ feed :: t) =
        pieces (fun c => decide (c = feed)) s ++ pieces (fun c => decide (c = feed)) t :=
      pieces_append_cons (p := fun c => decide (c = feed)) (decide_eq_true rfl) s t
    simp only [linesBy, hparts, List.dropLast_append_of_ne_nil hne,
      List.getLast?_append_of_ne_nil _ hne, List.map_append, List.append_assoc]
  have hnil : linesBy feed ret [] = [] := rfl
  rw [hfront t, hfront [], hnil, List.append_nil]

/-- The lines that bytes are decoded to are those of the bytes before a line feed and those of the
bytes after it. -/
theorem lines_decodeLossy_append (a b : List UInt8) :
    lines (Utf8.decodeLossy (a ++ 0x0A :: b)) =
      lines (Utf8.decodeLossy (a ++ [0x0A])) ++ lines (Utf8.decodeLossy b) := by
  have hfeed : ∀ b, Utf8.decodeLossy (a ++ 0x0A :: b) =
      Utf8.decodeLossy a ++ '\n' :: Utf8.decodeLossy b := by
    intro b
    rw [Utf8.decodeLossy_append_ascii (by decide), Utf8.decodeLossy_cons_ascii (by decide)]
    rfl
  rw [hfeed b, hfeed [], Utf8.decodeLossy_nil, lines, linesBy_append]
  rfl

end Text

namespace Diagnostic

open Text

variable {a b : List UInt8} {path : Path} {w : World}

/-- A line has something to say unless it is white space. -/
theorem isMeaningful_iff {line : List Char} : isMeaningful line = true ↔ ¬AllBlank line := by
  simp [isMeaningful, AllBlank]

/-- What follows a line feed does not matter if a line before it is not blank. -/
theorem summarizeBytes_append (hfeed : a.getLast? = some 0x0A)
    (hline : ∃ line ∈ lines (Utf8.decodeLossy a), ¬AllBlank line) (b : List UInt8) :
    summarizeBytes (a ++ b) = summarizeBytes a := by
  obtain ⟨front, rfl⟩ := List.getLast?_eq_some_iff.mp hfeed
  obtain ⟨line, hmem, hblank⟩ := hline
  have hfound : ((lines (Utf8.decodeLossy (front ++ [0x0A]))).find? isMeaningful).isSome = true :=
    List.find?_isSome.mpr ⟨line, hmem, isMeaningful_iff.mpr hblank⟩
  rw [summarizeBytes, summarizeBytes, summary?, summary?, List.append_assoc, List.singleton_append,
    lines_decodeLossy_append, List.find?_append, Option.or_of_isSome hfound]

/-- Where nothing was written there is nothing to summarize. -/
theorem summarizeBytes_nil : summarizeBytes [] = none := by
  rw [summarizeBytes, Utf8.decodeLossy_nil]
  rfl

/-- The summary of a file is that of the bytes that are read from it. -/
theorem summarizeFile_of_ok {ε : Type} {bytes : List UInt8} (h : w.files.read path = .ok bytes) :
    ((summarizeFile path : Effect ε (Option String)) w).1 = .ok (summarizeBytes bytes) := by
  rw [summarizeFile, Effect.bind_of_ok (show Effect.ask _ w = (.ok _, w) from rfl), h]
  rfl

/-- A file that cannot be read has no summary. -/
theorem summarizeFile_of_error {ε : Type} {e : IoError} (h : w.files.read path = .error e) :
    ((summarizeFile path : Effect ε (Option String)) w).1 = .ok none := by
  rw [summarizeFile, Effect.bind_of_ok (show Effect.ask _ w = (.ok _, w) from rfl), h]
  cases e <;> rfl

/-- The summary of the bytes of a text is the summary of the text. -/
theorem summarizeBytes_encode (text : String) :
    summarizeBytes (Utf8.encode text.toList) = summarize text := by
  rw [summarizeBytes, Utf8.decodeLossy_encode, summarize]

/-- A file that is missing or cannot be read has no summary, and a file that holds a text has the
summary of this text. Bytes after a line feed make no difference to the summary if a line before it
is not blank, whatever they are: what is read of such a file may be cut off anywhere after that. -/
theorem summary_of_log_file {ε : Type} (path : Path) (w : World) :
    let summaryOf := fun (path : Path) (w : World) =>
      ((summarizeFile path : Effect ε (Option String)) w).1
    (∀ e, w.files.read path = .error e → summaryOf path w = .ok none) ∧
    (∀ text : String, w.files.read path = .ok (Utf8.encode text.toList) →
      summaryOf path w = .ok (summarize text)) ∧
    ∀ (a b : List UInt8) (path' : Path) (w' : World), a.getLast? = some 0x0A →
      (∃ line ∈ lines (Utf8.decodeLossy a), ¬AllBlank line) →
      w.files.read path = .ok (a ++ b) → w'.files.read path' = .ok a →
      summaryOf path w = summaryOf path' w' := by
  intro summaryOf
  refine ⟨fun e => summarizeFile_of_error, fun text htext => ?_, ?_⟩
  · rw [← summarizeBytes_encode]
    exact summarizeFile_of_ok htext
  · intro a b path' w' hfeed hline hlong hshort
    have hsummary : summaryOf path w = .ok (summarizeBytes (a ++ b)) := summarizeFile_of_ok hlong
    rw [hsummary, summarizeBytes_append hfeed hline]
    exact (summarizeFile_of_ok hshort).symm

/-- The line after the first one is cut off within a character. -/
example : summarizeBytes (Utf8.encode "error: oops\nat ".toList ++ [0xE2, 0x82]) =
    some "error: oops" := by decide +kernel

end Diagnostic

end FragmentRunner
