import FragmentRunner.Path

/-!
# Failures of the operating system

The causes for which a file operation or the start of a program fails, each with its text.
-/

namespace FragmentRunner

/-- Why the operating system refused something. -/
inductive IoError
  | notFound
  | permissionDenied
  | alreadyExists
  | notADirectory
  | isADirectory
  | nameTooLong
  /-- A device failed. -/
  | inputOutput
  /-- A path that holds NUL was given to a file operation. -/
  | nulInPath
  /-- A program or an argument of it holds NUL. -/
  | nulInCommand
  /-- Bytes that should be text are not well-formed UTF-8. -/
  | malformedText
  /-- Something other than a directory stands where the output directory should be. -/
  | notAnOutputDirectory (path : Path)
deriving DecidableEq

/-- The text that describes a failure. -/
def IoError.message : IoError → String
  | .notFound => "No such file or directory (os error 2)"
  | .inputOutput => "Input/output error (os error 5)"
  | .permissionDenied => "Permission denied (os error 13)"
  | .alreadyExists => "File exists (os error 17)"
  | .notADirectory => "Not a directory (os error 20)"
  | .isADirectory => "Is a directory (os error 21)"
  | .nameTooLong => "File name too long (os error 36)"
  | .nulInPath => "file name contained an unexpected NUL byte"
  | .nulInCommand => "nul byte found in provided data"
  | .malformedText => "stream did not contain valid UTF-8"
  | .notAnOutputDirectory path => path.spelling ++ " is not a directory"

end FragmentRunner
