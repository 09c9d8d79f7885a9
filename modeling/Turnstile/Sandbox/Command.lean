import Turnstile.Keyed
import Turnstile.Text.Blank
/-!
# Commands and their results

A command is one program with its arguments. Whatever a run comes to,
there is a result; a note tells why a process did not run or finish as it
should.
-/

namespace Turnstile

/-- A request to run one program. -/
structure Command where
  program : String
  args : List String
  stdin : Option String
  workDir : Option String
  /-- In increasing order of name. -/
  env : List (String × String)
  deriving DecidableEq, Repr, Inhabited

namespace Command

/-- A program without arguments. -/
def make (program : String) : Command := ⟨program, [], none, none, []⟩

/-- A shell script. -/
def shell (script : String) : Command := { make "sh" with args := ["-c", script] }

/-- There is no program to run. -/
def isBlank (c : Command) : Bool := Text.allBlank c.program

/-- Why a command cannot be run. -/
def invalid? (c : Command) : Option String :=
  if c.isBlank then some "Invalid command: program is empty" else none

/-- The command on one line. -/
def display (c : Command) : String := Text.join " " (c.program :: c.args)

end Command

/-- The outcome of a run. -/
structure ExecResult where
  stdout : String
  stderr : String
  exitCode : Int
  /-- Why the process did not run or finish as it should. -/
  note : Option String
  deriving DecidableEq, Repr, Inhabited

namespace ExecResult

/-- A process that could not be run or did not finish. -/
def failed (why : String) : ExecResult := ⟨"", "", -1, some why⟩

/-- It ended by itself, with code nought. -/
def isSuccess (r : ExecResult) : Bool := r.exitCode == 0 && r.note.isNone

/-- The text on a line of its own after what there is. -/
def onNewLine (before : String) : String :=
  if before.isEmpty || Text.endsWith before "\n" then before else before ++ "\n"

/-- The result as text for the model: output, error output under a
heading, exit code and note. -/
def render (r : ExecResult) : String :=
  let out :=
    if r.stderr.isEmpty then r.stdout
    else onNewLine r.stdout ++ "[stderr]\n" ++ r.stderr
  let trailer :=
    (if r.exitCode = 0 then [] else ["[exit code: " ++ toString r.exitCode ++ "]"]) ++
    r.note.toList.map fun note => "[error: " ++ note ++ "]"
  let out := if trailer.isEmpty then out else onNewLine out ++ Text.join "\n" trailer
  if out.isEmpty then "(no output)" else out

end ExecResult

end Turnstile
