import Turnstile.Sandbox.Capture
import Turnstile.Sandbox.Command
/-!
# Runs — one process from start to end

A launch is what the system is asked to start, a run is what became of
it: how it ended and what its two pipes gave. Every run has a result; how
it ended decides the exit code and the note.
-/

namespace Turnstile

/-- What the system is asked to start. -/
structure Launch where
  program : String
  args : List String
  /-- Variables set on top of the inherited ones. -/
  env : List (String × String)
  workDir : Option String
  stdin : Option String
  /-- Milliseconds after which the whole process group is killed. -/
  limit : Nat
  /-- Cancelling the invocation kills it too. -/
  heedsCancel : Bool
  deriving DecidableEq, Repr, Inhabited

/-- How a run ended. -/
inductive Ending where
  | notStarted (cause : String)
  | exited (code : Int)
  | signalled (signal : Nat)
  /-- Its end could not be awaited. -/
  | waitFailed (cause : String)
  | deadline
  | cancelled
  deriving DecidableEq, Repr, Inhabited

namespace Ending

/-- The process group was killed before the process ended. -/
def isInterrupted : Ending → Bool
  | .deadline | .cancelled => true
  | _ => false

end Ending

/-- What became of a launch. -/
structure Run where
  ending : Ending
  stdout : List PipeRead
  stderr : List PipeRead
  deriving Repr, Inhabited

namespace Run

/-- A launch that came to nothing. -/
def notStarted (cause : String) : Run := ⟨.notStarted cause, [], []⟩

/-- A time in whole seconds if it is that, else in milliseconds. -/
def showTime (milliseconds : Nat) : String :=
  if milliseconds % 1000 = 0 then toString (milliseconds / 1000) ++ "s"
  else toString milliseconds ++ "ms"

/-- The exit code of an ending and the note on it. -/
def outcome (label : String) (limit : Nat) : Ending → Int × Option String
  | .notStarted cause => (-1, some ("failed to start '" ++ label ++ "': " ++ cause))
  | .exited code => (code, none)
  | .signalled signal => (128 + signal, some ("terminated by signal " ++ toString signal))
  | .waitFailed cause => (-1, some ("failed to wait for process: " ++ cause))
  | .deadline => (-1, some ("command timed out after " ++ showTime limit))
  | .cancelled => (-1, some "command cancelled")

/-- The result of a run, at most `max` bytes kept of each pipe. A pipe
that could not be read is noted unless the ending has a note. -/
def result (label : String) (limit max : Nat) (r : Run) : ExecResult :=
  let (code, note) := outcome label limit r.ending
  match r.ending with
  | .notStarted _ => ⟨"", "", code, note⟩
  | _ =>
    let out := capture max none r.stdout
    let err := capture max none r.stderr
    let broken := (out.error <|> err.error).map ("failed to read output: " ++ ·)
    ⟨out.text, err.text, code, note <|> broken⟩

end Run

end Turnstile
