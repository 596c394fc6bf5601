import FragmentRunner.Proofs.Dialogue.Answering
import FragmentRunner.Proofs.Fragment.FirstWords

/-!
# The grammar of lines

Some commands are told by their spelling, and one by a word and the path behind it. A line that is
none of these is an unknown command if it begins with a colon, and a fragment otherwise. `Reads`
puts this down as rules, one for each kind of line.

* `parse_eq_iff_reads`: a line is read as the rules say.
* `parse_directory_line`: white space around a path and its command is no part of the path.
* `commands_by_rules`: both, together with what is checked for a line that names a directory.
* `entered_iff_no_colon`: a line that is no command is entered unless it begins with a colon, so
  that a path from the root of all crates, which begins with two, never is.
-/

namespace FragmentRunner.Dialogue

open Text

variable {line path : String} {command : LineCommand}

/-! ## Rules -/

/-- The lines that are commands for their spelling, with what they ask for. -/
def spellings : List (String × LineCommand) := [
  ("", .empty),
  ("run", .run), (":run", .run), (":r", .run),
  ("reset", .reset), (":reset", .reset), (":clear", .reset), (":c", .reset),
  ("quit", .quit), (":quit", .quit), (":q", .quit),
  (":help", .help), (":h", .help),
  (":source", .source), (":s", .source),
  (":dir", .directory none)]

/-- A line names a path: it is `:dir`, then white space, and what follows it is the path when it is
trimmed. -/
def NamesPath (line path : String) : Prop :=
  ∃ c rest, isBlank c = true ∧ line.toList = ":dir".toList ++ c :: rest ∧
    path.toList = trim rest ∧ path ≠ ""

/-- A line has no spelling of a command and names no path. -/
structure IsOther (line : String) : Prop where
  not_spelled : ∀ command, (line, command) ∉ spellings
  not_path : ∀ path, ¬NamesPath line path

/-- How a trimmed line is read. -/
inductive Reads : String → LineCommand → Prop
  | spelled {line : String} {command : LineCommand} (h : (line, command) ∈ spellings) :
      Reads line command
  | path {line path : String} (h : NamesPath line path) : Reads line (.directory (some path))
  | unknown {line : String} (hcolon : line.toList.head? = some ':') (h : IsOther line) :
      Reads line (.unknown line)
  | fragment {line : String} (hcolon : line.toList.head? ≠ some ':') (h : IsOther line) :
      Reads line (.fragment line)

/-- Every line is read somehow. -/
theorem exists_reads (line : String) : ∃ command, Reads line command := by
  by_cases hspelled : ∃ command, (line, command) ∈ spellings
  · obtain ⟨command, h⟩ := hspelled
    exact ⟨command, .spelled h⟩
  by_cases hpath : ∃ path, NamesPath line path
  · obtain ⟨path, h⟩ := hpath
    exact ⟨_, .path h⟩
  have hother : IsOther line := ⟨not_exists.mp hspelled, not_exists.mp hpath⟩
  by_cases hcolon : line.toList.head? = some ':'
  · exact ⟨_, .unknown hcolon hother⟩
  · exact ⟨_, .fragment hcolon hother⟩

/-! ## Reading by the rules -/

/-- A line with the spelling of a command is read as that command. -/
theorem parse_of_mem_spellings : ∀ spelled ∈ spellings,
    LineCommand.parse spelled.1 = spelled.2 := by
  decide

/-- No spelling of a command has white space in it. -/
theorem noBlank_of_mem_spellings : ∀ spelled ∈ spellings, NoBlank spelled.1.toList := by
  decide

/-- A line that names a path has no spelling of its own. -/
theorem NamesPath.not_spelled (h : NamesPath line path) (command : LineCommand) :
    (line, command) ∉ spellings := by
  intro hspelled
  obtain ⟨c, rest, hc, hline, -, -⟩ := h
  have hnot := noBlank_of_mem_spellings _ hspelled c (by simp [hline])
  rw [hc] at hnot
  cases hnot

/-- A trimmed line is not trimmed any further. -/
theorem trimLine_trimLine (line : String) : trimLine (trimLine line) = trimLine line := by
  rw [trimLine, trimLine, String.toList_ofList, trim_trim]

/-- A line without a spelling of its own is read from a colon on, or is a fragment. -/
theorem parse_of_not_spelled (h : ∀ command, (line, command) ∉ spellings) :
    LineCommand.parse line = match line.toList with
      | ':' :: rest => .ofColon line rest
      | _ => .fragment line := by
  have hempty : line ≠ "" := by simpa [spellings] using h .empty
  have hrun : line ∉ ["run", ":run", ":r"] := by simpa [spellings] using h .run
  have hreset : line ∉ ["reset", ":reset", ":clear", ":c"] := by
    simpa [spellings] using h .reset
  have hquit : line ∉ ["quit", ":quit", ":q"] := by simpa [spellings] using h .quit
  have hhelp : line ∉ [":help", ":h"] := by simpa [spellings] using h .help
  have hsource : line ∉ [":source", ":s"] := by simpa [spellings] using h .source
  rw [LineCommand.parse, if_neg hempty, if_neg hrun, if_neg hreset, if_neg hquit, if_neg hhelp]
  exact if_neg hsource

/-- The argument is what follows the first word, trimmed. -/
theorem argument?_append {word rest : List Char} (hword : NoBlank word) (hend : EndsBefore rest) :
    LineCommand.argument? (word ++ rest) =
      if trim rest = [] then none else some (String.ofList (trim rest)) := by
  rw [LineCommand.argument?, dropWhile_append_of_endsBefore hword hend]
  cases trim rest <;> rfl

/-- Behind the word `dir` stands the argument. -/
theorem ofColon_dir (line : String) {rest : List Char} (hend : EndsBefore rest) :
    LineCommand.ofColon line ("dir".toList ++ rest) =
      .directory (if trim rest = [] then none else some (String.ofList (trim rest))) := by
  have hword : NoBlank "dir".toList := by decide
  rw [LineCommand.ofColon, takeWhile_append_of_endsBefore hword hend, if_pos rfl,
    argument?_append hword hend]

/-- A line that names a path is read as naming it. -/
theorem parse_of_namesPath (h : NamesPath line path) :
    LineCommand.parse line = .directory (some path) := by
  have hspelled := h.not_spelled
  obtain ⟨c, rest, hc, hline, hpath, hne⟩ := h
  have hcolon : line.toList = ':' :: ("dir".toList ++ c :: rest) := hline
  have hrest : trim rest ≠ [] := by
    rwa [← hpath, Ne, String.toList_eq_nil_iff]
  rw [parse_of_not_spelled hspelled, hcolon]
  simp only
  rw [ofColon_dir line (endsBefore_cons hc rest), trim_cons_of_blank hc, if_neg hrest, ← hpath,
    String.ofList_toList]

/-- A line that begins with a colon and is no command is unknown. -/
theorem parse_of_colon (htrim : trimLine line = line) (hcolon : line.toList.head? = some ':')
    (h : IsOther line) : LineCommand.parse line = .unknown line := by
  obtain ⟨rest, hline⟩ := List.head?_eq_some_iff.mp hcolon
  obtain ⟨word, rest, hword, hend, rfl⟩ := exists_split rest
  rw [parse_of_not_spelled h.not_spelled, hline]
  simp only
  rw [LineCommand.ofColon, takeWhile_append_of_endsBefore hword hend, if_neg]
  rintro rfl
  -- Behind the word stands nothing, or a path, or nothing but white space.
  cases rest with
  | nil =>
    have hdir : line = ":dir" := String.toList_inj.mp hline
    exact h.not_spelled (.directory none) (by rw [hdir]; decide)
  | cons c more =>
    have hc : isBlank c = true := hend.resolve_left (List.cons_ne_nil c more)
    have hsplit : line.toList = ":dir".toList ++ c :: more := hline
    by_cases hmore : trim more = []
    · -- A trimmed line does not end with white space.
      have hblank : AllBlank (c :: more) :=
        List.forall_mem_cons.mpr ⟨hc, allBlank_of_trim_eq_nil hmore⟩
      have htrimmed : trim line.toList = ":dir".toList := by
        rw [hsplit, ← List.nil_append ":dir".toList,
          trim_blank_append_blank (List.forall_mem_nil _) hblank]
        decide
      have hlist := congrArg String.toList htrim
      rw [trimLine, String.toList_ofList, htrimmed, hsplit] at hlist
      simp at hlist
    · refine h.not_path (String.ofList (trim more)) ⟨c, more, hc, hsplit, ?_, ?_⟩
      · rw [String.toList_ofList]
      · rwa [Ne, ← String.toList_eq_nil_iff, String.toList_ofList]

/-- A line that does not begin with a colon and is no command is a fragment. -/
theorem parse_of_no_colon (hcolon : line.toList.head? ≠ some ':') (h : IsOther line) :
    LineCommand.parse line = .fragment line := by
  rw [parse_of_not_spelled h.not_spelled]
  split
  · next rest hline =>
    rw [hline] at hcolon
    exact absurd rfl hcolon
  · rfl

/-- A trimmed line is read as the rules say. -/
theorem parse_eq_iff_reads (htrim : trimLine line = line) :
    LineCommand.parse line = command ↔ Reads line command := by
  have hrules : ∀ {command}, Reads line command → LineCommand.parse line = command := by
    intro command h
    cases h with
    | spelled h => exact parse_of_mem_spellings _ h
    | path h => exact parse_of_namesPath h
    | unknown hcolon h => exact parse_of_colon htrim hcolon h
    | fragment hcolon h => exact parse_of_no_colon hcolon h
  constructor
  · rintro rfl
    -- Some rule reads the line, and all of them agree with the parser.
    obtain ⟨command, h⟩ := exists_reads line
    rwa [hrules h]
  · exact hrules

/-! ## Lines that name a path -/

/-- White space around the command and the path is no part of the path. -/
theorem parse_directory_line {before gap path after : String} (hbefore : AllBlank before.toList)
    (hgap : AllBlank gap.toList) (hafter : AllBlank after.toList) (hne : gap ≠ "")
    (hpath : path ≠ "") (hstart : startsBlank path.toList = false)
    (hend : startsBlank path.toList.reverse = false) :
    LineCommand.parse (trimLine (before ++ ":dir" ++ gap ++ path ++ after)) =
      .directory (some path) := by
  obtain ⟨c, more, hmore⟩ := List.exists_cons_of_ne_nil (mt String.toList_eq_nil_iff.mp hne)
  obtain ⟨last, front, hlast⟩ := List.exists_cons_of_ne_nil
    (mt List.reverse_eq_nil_iff.mp (mt String.toList_eq_nil_iff.mp hpath))
  rw [hmore] at hgap
  obtain ⟨hc, hrest⟩ := List.forall_mem_cons.mp hgap
  -- What is left of the line begins with the colon and ends like the path.
  have htrim : trim (":dir".toList ++ c :: (more ++ path.toList)) =
      ":dir".toList ++ c :: (more ++ path.toList) := by
    refine trim_eq_self rfl ?_
    simp only [List.reverse_append, List.reverse_cons, hlast, List.cons_append]
    rw [hlast] at hend
    exact hend
  have hline : (trimLine (before ++ ":dir" ++ gap ++ path ++ after)).toList =
      ":dir".toList ++ c :: (more ++ path.toList) := by
    rw [← htrim, ← trim_blank_append_blank hbefore hafter, trimLine, String.toList_ofList]
    simp [hmore]
  refine parse_of_namesPath ⟨c, more ++ path.toList, hc, hline, ?_, hpath⟩
  have hnil : AllBlank [] := List.forall_mem_nil _
  rw [← List.append_nil (more ++ path.toList), trim_blank_append_blank hrest hnil,
    trim_eq_self hstart hend]

/-- A trimmed line is read as the rules say. A line with `:dir`, white space and a path has just
this path checked, whatever white space there is between and around them, and the directory is set
if the check lets it pass. -/
theorem commands_by_rules :
    (∀ line, trimLine line = line →
      ∀ command, LineCommand.parse line = command ↔ Reads line command) ∧
    ∀ before gap path after : String, AllBlank before.toList → AllBlank gap.toList →
      AllBlank after.toList → gap ≠ "" → path ≠ "" → startsBlank path.toList = false →
      startsBlank path.toList.reverse = false →
      ∀ (colors : Bool) (s : Interpreter) (w : World),
        respond colors (before ++ ":dir" ++ gap ++ path ++ after) s w =
          match OutputDirectory.validate (.ofString path) w with
          | (.ok directory, w) => (directoryReply directory, s.setDirectory directory, w)
          | (.error e, w) => (complaint colors e.message, s, w) := by
  constructor
  · intro line htrim command
    exact parse_eq_iff_reads htrim
  · intro before gap path after hbefore hgap hafter hne hpath hstart hend colors s w
    rw [respond, parse_directory_line hbefore hgap hafter hne hpath hstart hend]
    rfl

/-- White space inside a path is part of it. -/
example : LineCommand.parse (trimLine "\t:dir  my  out ") = .directory (some "my  out") := by
  decide +kernel

/-! ## Lines that are no commands -/

/-- A fragment that begins with a colon is a statement. -/
theorem of?_of_colon {text : String} (hcolon : text.toList.head? = some ':') :
    FragmentKind.of? text = some .statement := by
  obtain ⟨rest, htext⟩ := List.head?_eq_some_iff.mp hcolon
  have htrim : trimStart text.toList = ':' :: rest := by rw [htext]; rfl
  have hword : ∀ c word, c ≠ ':' → ¬BeginsWithWord (c :: word) (trimStart text.toList) := by
    rintro c word hc ⟨after, hsplit, -⟩
    rw [htrim] at hsplit
    exact hc (List.cons.inj hsplit).1.symm
  rw [of?_eq_statement_iff, Ne, of?_eq_none_iff, isImport_iff, not_or]
  refine ⟨hword 'r' _ (by decide), hword 'u' _ (by decide), ?_⟩
  rintro ⟨gap, after, -, -, hsplit, -⟩
  rw [htrim] at hsplit
  exact absurd (List.cons.inj hsplit).1 (by decide)

/-- A line that begins with two colons is no command. -/
theorem isOther_of_colons (h : "::".toList <+: line.toList) : IsOther line := by
  have hnone : ∀ spelled ∈ spellings, ¬"::".toList <+: spelled.1.toList := by decide
  constructor
  · intro command hspelled
    exact hnone _ hspelled h
  · rintro path ⟨c, rest, -, hline, -⟩
    obtain ⟨after, hafter⟩ := h
    rw [← hafter] at hline
    simp at hline

/-- Adding a text that begins with a colon appends it to the statements. -/
theorem add_of_colon {text : String} (hcolon : text.toList.head? = some ':') (s : Interpreter)
    (w : World) : SharedInterpreter.add text s w =
      (.ok (), { s with draft := s.draft.addFragment text .statement }, w) := by
  have hkind := of?_of_colon hcolon
  have himport : ¬isImport text = true := (of?_eq_statement_iff.mp hkind).2
  rw [Run.add_of_kind s w hkind, Run.afterAccepting, if_neg himport]

/-- A line that begins with a colon and is no command changes nothing. -/
theorem respond_of_colon (hcolon : (trimLine line).toList.head? = some ':')
    (h : IsOther (trimLine line)) (colors : Bool) (s : Interpreter) (w : World) :
    respond colors line s w =
      (complaint colors ("Unknown command: " ++ trimLine line), s, w) := by
  rw [respond, parse_of_colon (trimLine_trimLine line) hcolon h]
  rfl

/-- A line that does not begin with a colon and is no command is added. -/
theorem respond_of_no_colon (hcolon : (trimLine line).toList.head? ≠ some ':')
    (h : IsOther (trimLine line)) (colors : Bool) (s : Interpreter) (w : World) :
    (respond colors line s w).2 = (SharedInterpreter.add (trimLine line) s w).2 := by
  rw [respond_eq, parse_of_no_colon hcolon h, afterCall, call?, Option.elim_some,
    Run.perform_add]

/-- A line that is no command is entered, as adding its text would enter it, if and only if it does
not begin with a colon. So a path from the root of all crates is never entered: it is called an
unknown command, and nothing is changed, although its text would be accepted as a statement. -/
theorem entered_iff_no_colon (colors : Bool) (line : String) (s : Interpreter) (w : World) :
    let text := trimLine line
    (IsOther text →
      ((respond colors line s w).2 = (SharedInterpreter.add text s w).2 ↔
        text.toList.head? ≠ some ':')) ∧
    ("::".toList <+: text.toList →
      IsOther text ∧
      respond colors line s w = (complaint colors ("Unknown command: " ++ text), s, w) ∧
      SharedInterpreter.add text s w =
        (.ok (), { s with draft := { s.draft with statements := s.draft.statements ++ [text] } },
          w)) := by
  intro text
  constructor
  · intro hother
    constructor
    · intro hsame hcolon
      -- The text would be in the draft now.
      rw [respond_of_colon hcolon hother, add_of_colon hcolon] at hsame
      have hdraft := congrArg (·.1.draft) hsame
      exact Draft.addFragment_ne_self s.draft text .statement hdraft.symm
    · intro hcolon
      exact respond_of_no_colon hcolon hother colors s w
  · intro hcolons
    have hother : IsOther text := isOther_of_colons hcolons
    have hcolon : text.toList.head? = some ':' := by
      obtain ⟨rest, hrest⟩ := hcolons
      rw [← hrest]
      rfl
    exact ⟨hother, respond_of_colon hcolon hother colors s w, add_of_colon hcolon s w⟩

/-- A call of a function by its path from the root of all crates is not entered. -/
theorem root_path_not_entered :
    let s := Interpreter.new (.ofString "/srv/out") {}
    let w := OutputDirectory.withOutput
    let line := "::std::process::exit(0);"
    (respond false line s w).1 = .message "Unknown command: ::std::process::exit(0);" ∧
    (respond false line s w).2.1.draft.statements = [] ∧
    (SharedInterpreter.add line s w).1 = .ok () ∧
    (SharedInterpreter.add line s w).2.1.draft.statements = [line] := by
  decide +kernel

end FragmentRunner.Dialogue
