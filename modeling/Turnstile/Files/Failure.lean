/-!
# Failures of the file system

What a file operation fails with, and the text it is shown as.
-/

namespace Turnstile

/-- Why a file operation failed. -/
inductive FileFailure where
  | notFound
  | permissionDenied
  | exists
  | notDirectory
  | isDirectory
  | nameTooLong
  | notEmpty
  | tooManyLinks
  /-- The path holds a character no path may hold. -/
  | nulInPath
  /-- Links were nested deeper than the guard follows. -/
  | linksTooDeep
  deriving DecidableEq, Repr, Inhabited

namespace FileFailure

/-- The system's words for a failure, if the system reported it, with its
number. -/
def system? : FileFailure → Option (String × Nat)
  | .notFound => some ("No such file or directory", 2)
  | .permissionDenied => some ("Permission denied", 13)
  | .exists => some ("File exists", 17)
  | .notDirectory => some ("Not a directory", 20)
  | .isDirectory => some ("Is a directory", 21)
  | .nameTooLong => some ("File name too long", 36)
  | .notEmpty => some ("Directory not empty", 39)
  | .tooManyLinks => some ("Too many levels of symbolic links", 40)
  | .nulInPath | .linksTooDeep => none

/-- The message. -/
def message (f : FileFailure) : String :=
  match f.system? with
  | some (words, number) => words ++ " (os error " ++ toString number ++ ")"
  | none =>
    match f with
    | .nulInPath => "file name contained an unexpected NUL byte"
    | _ => "too many levels of symbolic links"

end FileFailure

end Turnstile
