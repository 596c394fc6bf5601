import FragmentRunner.Text.Blank

/-!
# The commands of the dialogue

A line is a command if it is one of a few words or begins with a colon, and a fragment otherwise.
-/

namespace FragmentRunner

/-- What a line asks for. -/
inductive LineCommand
  | run
  | reset
  | quit
  | help
  /-- Show the unit that the fragments make. -/
  | source
  /-- Show the output directory, or change it. -/
  | directory (path : Option String)
  | empty
  /-- A line that begins with a colon and is none of the commands. -/
  | unknown (line : String)
  | fragment (text : String)
deriving DecidableEq

namespace LineCommand

/-- The text after the first word, trimmed, unless nothing is left of it. -/
def argument? (text : List Char) : Option String :=
  match Text.trim (text.dropWhile fun c => !Text.isBlank c) with
  | [] => none
  | chars => some (String.ofList chars)

/-- The command on a line that begins with a colon and has no fixed spelling. -/
def ofColon (line : String) (afterColon : List Char) : LineCommand :=
  if afterColon.takeWhile (fun c => !Text.isBlank c) = "dir".toList then
    .directory (argument? afterColon)
  else .unknown line

/-- What a line asks for. -/
def parse (line : String) : LineCommand :=
  if line = "" then .empty
  else if line ∈ ["run", ":run", ":r"] then .run
  else if line ∈ ["reset", ":reset", ":clear", ":c"] then .reset
  else if line ∈ ["quit", ":quit", ":q"] then .quit
  else if line ∈ [":help", ":h"] then .help
  else if line ∈ [":source", ":s"] then .source
  else
    match line.toList with
    | ':' :: rest => ofColon line rest
    | _ => .fragment line

end LineCommand

end FragmentRunner
