import Turnstile.Files.Program
import Turnstile.Keyed
import Turnstile.Machine.Script
import Turnstile.Machine.Utility
/-!
# The shell — its state

What a running script sees and changes. Time is counted in milliseconds
and passes only where a program waits. What is written to a pipe is kept
with the time it was written, so that what came too late can be told from
what came in time.
-/

namespace Turnstile

namespace Shell

/-- Where a stream goes. -/
inductive Sink where
  | pipe (number : Nat)
  | file (place : AbsPath)
  | nowhere
  deriving DecidableEq, Inhabited

/-- Why a script stops before its end. -/
inductive Stop where
  | leave (status : Int)
  | killed (signal : Nat)
  /-- It waits for ever, or beyond the time it has. -/
  | never
  | breakOut (levels : Nat)
  | goOn (levels : Nat)
  | back (status : Int)

/-- A job started in the background. -/
structure Background where
  id : Nat
  /-- When it ends, if it does. -/
  ends : Option Nat
  status : Int
  signal : Option Nat

/-- A shell at work. -/
structure State where
  files : FileTree
  clock : Nat
  limit : Nat
  /-- What was written to each pipe and when, last first. -/
  pipes : List (Nat × List (Nat × Feed))
  /-- What is left to read of each input. -/
  inputs : List (Nat × Feed)
  next : Nat
  name : String
  args : List String
  vars : List (String × String)
  exported : List String
  cwd : AbsPath
  status : Int
  /-- The signal that ended the last program run as a script, if one did. -/
  signal : Option Nat
  pid : Nat
  /-- The jobs in the background, the last one first. -/
  background : List Background
  functions : List (String × Script.Command)
  traps : List (String × String)
  exitOnError : Bool
  /-- A parameter that is not set is an error. -/
  unsetIsError : Bool
  /-- How many loops it is in. -/
  loops : Nat
  /-- The line it is at. -/
  line : Nat
  /-- How many lines end in the script. -/
  lineEnds : Nat
  input : Nat
  out : Sink
  err : Sink

/-- Running a script. -/
abbrev Run := ExceptT Stop (StateM State)

/-- The number of a signal, by name or number. -/
def signal? (name : String) : Option Nat :=
  let bare := (Text.strip? "SIG" name).getD name
  match Utility.nat? bare with
  | some n => some n
  | none =>
    ([("HUP", 1), ("INT", 2), ("QUIT", 3), ("ILL", 4), ("TRAP", 5), ("ABRT", 6), ("BUS", 7),
      ("FPE", 8), ("KILL", 9), ("USR1", 10), ("SEGV", 11), ("USR2", 12), ("PIPE", 13),
      ("ALRM", 14), ("TERM", 15), ("CHLD", 17), ("CONT", 18), ("STOP", 19), ("TSTP", 20),
      ("TTIN", 21), ("TTOU", 22), ("URG", 23), ("XCPU", 24), ("XFSZ", 25), ("VTALRM", 26),
      ("PROF", 27), ("WINCH", 28), ("IO", 29), ("PWR", 30), ("SYS", 31)].find?
        (·.1 == bare)).map (·.2)

/-- What the shell prints about a program that a signal ended. -/
def fate (signal : Nat) : String :=
  match signal with
  | 1 => "Hangup\n"
  | 2 => "\n"
  | 3 => "Quit\n"
  | 4 => "Illegal instruction\n"
  | 5 => "Trace/breakpoint trap\n"
  | 6 => "Aborted\n"
  | 7 => "Bus error\n"
  | 8 => "Floating point exception\n"
  | 9 => "Killed\n"
  | 10 => "User defined signal 1\n"
  | 11 => "Segmentation fault\n"
  | 12 => "User defined signal 2\n"
  | 14 => "Alarm clock\n"
  | 15 => "Terminated\n"
  | _ => ""

/-- Signals that end nothing unless they are trapped. -/
def isHarmless (signal : Nat) : Bool := [0, 17, 18, 23, 28].contains signal

/-- Signals that make a process stand still. -/
def isStopping (signal : Nat) : Bool := [19, 20, 21, 22].contains signal

/-! ## Streams -/

/-- Write to a sink. -/
def write (sink : Sink) (feed : Feed) : Run Unit :=
  modify fun s =>
    match sink with
    | .nowhere => s
    | .pipe n =>
      { s with pipes := Keyed.insert n ((s.clock, feed) :: (Keyed.find? n s.pipes).getD []) s.pipes }
    | .file place =>
      match s.files.entry? place with
      | some (.file old x) => { s with files := s.files.put place (.file (old ++ feed.bytes) x) }
      | _ => s

/-- Print to the output. -/
def print (text : String) : Run Unit := do write (← get).out (.ofString text)

/-- A complaint of the shell. -/
def complain (text : String) : Run Unit := do
  let s ← get
  write s.err (.ofString (s.name ++ ": " ++ toString s.line ++ ": " ++ text ++ "\n"))

/-- What is left of the input. -/
def input : Run Feed := do
  let s ← get
  return (Keyed.find? s.input s.inputs).getD .none

/-- Leave this to be read. -/
def setInput (feed : Feed) : Run Unit :=
  modify fun s => { s with inputs := Keyed.insert s.input feed s.inputs }

/-- A number not used before. -/
def fresh : Run Nat := do
  let s ← get
  set { s with next := s.next + 1 }
  return s.next

/-- Everything that was written to a pipe. -/
def written (n : Nat) : Run Feed := do
  let pieces := (Keyed.find? n (← get).pipes).getD []
  return pieces.reverse.foldl (fun all p => all.append p.2) .none

/-- Let time pass. -/
def wait : Option Nat → Run Unit
  | none => throw .never
  | some ms => do
    modify fun s => { s with clock := s.clock + ms }
    let s ← get
    if s.limit < s.clock then throw .never

/-! ## Parameters -/

/-- The value of a parameter that is one text. -/
def param? (s : State) (name : String) : Option String :=
  match name with
  | "?" => some (toString s.status)
  | "$" => some (toString s.pid)
  | "!" => s.background.head?.map fun b => toString b.id
  | "#" => some (toString s.args.length)
  | "0" => some s.name
  | "@" | "*" => if s.args.isEmpty then none else some (Text.join " " s.args)
  | "-" => some ""
  | "PWD" => some ((Keyed.find? "PWD" s.vars).getD s.cwd.text)
  | name =>
    match Utility.nat? name with
    | some n => s.args[n - 1]?
    | none => Keyed.find? name s.vars

/-- Set a variable. -/
def setVar (name value : String) : Run Unit :=
  modify fun s => { s with vars := Keyed.insert name value s.vars }

/-- The exported variables. -/
def environment (s : State) : List (String × String) :=
  s.vars.filter fun v => s.exported.contains v.1

end Shell

end Turnstile
