import Turnstile.Machine.Shell.Run
import Turnstile.Sandbox.Basic
/-!
# The kernel — starting and following processes

Starting a launch on the modelled system and following it to its end: the
program is looked for, given the inherited variables and its own, and
killed at its deadline or when the invocation is cancelled. What it wrote
to its two pipes is kept up to two seconds after it ended, which is how
long whatever it left behind is listened to.
-/

namespace Turnstile

namespace Kernel

/-- The number of the pipe that is the output. -/
def outPipe : Nat := 1

/-- The number of the pipe that is for complaints. -/
def errPipe : Nat := 2

/-- Milliseconds for which pipes are read after the end. -/
def grace : Nat := 2000

/-- Bytes read of a feed without end. -/
def flood : Nat := 2097152

/-- Steps a script may take. -/
def steps : Nat := 1000000

/-- Where programs are looked for if `PATH` is not set. -/
def usualPath : String := "/bin:/usr/bin"

/-- The inherited variables with those of the launch on top. -/
def environment (w : World) (l : Launch) : List (String × String) :=
  l.env.foldl (fun vars v => Keyed.insert v.1 v.2 vars) w.env

/-- A text that no system call takes. -/
def hasNul (s : String) : Bool := s.toList.contains '\x00'

/-- The directory the process starts in. -/
def directory (w : World) (l : Launch) : Except FileFailure AbsPath :=
  match l.workDir with
  | none => .ok w.cwd
  | some dir =>
    match w.files.stat w.cwd dir with
    | .error e => .error e
    | .ok (p, .directory) => .ok p
    | .ok _ => .error .notDirectory

/-- The program of a launch, if it and the interpreter it names are there. -/
def program (w : World) (l : Launch) (cwd : AbsPath) : Except FileFailure (AbsPath × Entry) := do
  let path := (Keyed.find? "PATH" (environment w l)).getD usualPath
  let (place, entry) ← w.files.findProgram cwd path l.program
  if let .file content _ := entry then
    if let some (interpreter :: _) := Shell.interpreter? content then
      let _ ← w.files.findProgram cwd "" interpreter
  return (place, entry)

/-- A process before its first step. -/
def initial (w : World) (l : Launch) (cwd : AbsPath) (limit : Nat) : Shell.State :=
  let env := environment w l
  { files := w.files
    clock := 0
    limit
    pipes := []
    inputs := [(0, .ofString (l.stdin.getD ""))]
    next := 3
    name := l.program
    args := l.args
    vars := env
    exported := env.map (·.1)
    cwd
    status := 0
    signal := none
    pid := w.processId + 1
    background := []
    functions := []
    traps := []
    exitOnError := false
    unsetIsError := false
    loops := 0
    line := 1
    lineEnds := 0
    input := 0
    out := .pipe outPipe
    err := .pipe errPipe }

/-- The reads of a pipe up to a time. -/
def reads (s : Shell.State) (pipe until_ : Nat) : List PipeRead :=
  let written := ((Keyed.find? pipe s.pipes).getD []).reverse.filter fun p => p.1 ≤ until_
  let feed := written.foldl (fun all p => all.append p.2) Feed.none
  if feed.ends then [.data feed.bytes] else [.data (feed.unrolled (feed.bytes.length + flood)).bytes]

/-- What ends a process from outside, and when. -/
def interruption (w : World) (l : Launch) : Nat × Ending :=
  match w.cancelIn with
  | some ms => if l.heedsCancel && ms < l.limit then (ms, .cancelled) else (l.limit, .deadline)
  | none => (l.limit, .deadline)

/-- Follow a program to its end. -/
def follow (w : World) (l : Launch) (cwd place : AbsPath) (entry : Entry) : Run × World :=
  let (limit, interrupted) := interruption w l
  let start := initial w l cwd limit
  if limit = 0 then (⟨interrupted, [], []⟩, w)
  else
    let name := if l.program.toList.contains '/' then l.program
      else match entry with
        | .file _ _ => place.text
        | _ => l.program
    let (outcome, s) := (Shell.runFound steps name l.args place entry).run.run start
    let ending : Ending := match outcome with
      | .ok () =>
        match s.signal with
        | some signal => .signalled signal
        | none => .exited s.status
      | .error (.leave status) => .exited status
      | .error (.killed signal) => .signalled signal
      | .error _ => interrupted
    let spent := if ending.isInterrupted then limit else s.clock
    (⟨ending, reads s outPipe (spent + grace), reads s errPipe (spent + grace)⟩,
      { w with
        files := s.files
        cancelIn := w.cancelIn.map (· - spent)
        clock := w.clock + spent })

/-- Start a launch and follow it to its end. -/
def machine : Machine := fun l => do
  let w ← get
  if (l.program :: l.args).any hasNul || l.env.any (fun v => hasNul v.1 || hasNul v.2) then
    return .notStarted "nul byte found in provided data"
  match directory w l with
  | .error e => return .notStarted e.message
  | .ok cwd =>
    match program w l cwd with
    | .error e => return .notStarted e.message
    | .ok (place, entry) =>
      let (run, w) := follow w l cwd place entry
      set { w with started := w.started ++ [l] }
      return run

end Kernel

end Turnstile
