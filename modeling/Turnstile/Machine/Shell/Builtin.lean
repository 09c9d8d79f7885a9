import Turnstile.Machine.Shell.Call
/-!
# The shell — what is built in

The commands that the shell runs itself and that run nothing else. Those
that run further commands are with the running of commands.
-/

namespace Turnstile

namespace Shell

namespace Builtin

/-- End with a status. -/
def ends (status : Int) : Run Unit := modify fun s => { s with status }

/-- The first argument as a number. -/
def count (name : String) (args : List String) (usual : Nat) : Run Nat :=
  match args with
  | [] => return usual
  | a :: _ =>
    match Utility.nat? a with
    | some n => return n
    | none => do
      complain (name ++ ": Illegal number: " ++ a)
      throw (.leave 2)

/-- Leave the loops it is in, or go on with them. -/
def escape (name : String) (args : List String) : Run Unit := do
  let levels := min (← count name args 1) (← get).loops
  if levels = 0 then ends 0
  else throw (if name == "break" then .breakOut levels else .goOn levels)

/-- Change the directory. -/
def cd (args : List String) : Run Unit := do
  let s ← get
  let target := args.headD ((Keyed.find? "HOME" s.vars).getD "/")
  match s.files.stat s.cwd target with
  | .ok (place, .directory) =>
    set { s with cwd := place, vars := Keyed.insert "PWD" place.text s.vars, status := 0 }
  | _ => do
    complain ("cd: can't cd to " ++ target)
    ends 2

/-- Mark variables for programs to see, setting them first if told. -/
def export_ (args : List String) : Run Unit := do
  for a in args do
    let (name, value) := a.toList.span (· != '=')
    let name := String.ofList name
    if !value.isEmpty then setVar name (String.ofList (value.drop 1))
    modify fun s => { s with exported := name :: s.exported }
  ends 0

/-- Move the arguments down. -/
def shift (args : List String) : Run Unit := do
  let places ← count "shift" args 1
  let s ← get
  if s.args.length < places then
    complain "shift: can't shift that many"
    throw (.leave 2)
  set { s with args := s.args.drop places, status := 0 }

/-- Turn options on. -/
def withOptions (on : Bool) (letters : List Char) (s : State) : State :=
  { s with
    exitOnError := if letters.contains 'e' then on else s.exitOnError
    unsetIsError := if letters.contains 'u' then on else s.unsetIsError }

/-- Set options and arguments. -/
def set_ : List String → Run Unit
  | [] => ends 0
  | "--" :: rest => modify fun s => { s with args := rest, status := 0 }
  | a :: rest => do
    match a.toList with
    | '-' :: letters => do
      modify (withOptions true letters)
      set_ rest
    | '+' :: letters => do
      modify (withOptions false letters)
      set_ rest
    | _ => modify fun s => { s with args := a :: rest, status := 0 }

/-- Say what to do on signals. -/
def trap (args : List String) : Run Unit := do
  match args with
  | action :: signals =>
    let signals := signals.map fun t => (Text.strip? "SIG" t).getD t
    modify fun s =>
      let others := s.traps.filter fun t => !signals.contains t.1
      { s with
        traps := if action == "-" then others else signals.map (fun t => (t, action)) ++ others }
  | [] => pure ()
  ends 0

/-- Give the words of a line to variables; the last takes what is left. -/
def spread : List String → List Char → Run Unit
  | [], _ => return
  | [last], cs => setVar last (String.ofList (Text.dropEndWhile (· == ' ') cs))
  | name :: more, cs => do
    let (word, cs) := cs.span (· != ' ')
    setVar name (String.ofList word)
    spread more (cs.dropWhile (· == ' '))

/-- Read a line of the input into variables. -/
def read (args : List String) : Run Unit := do
  let names := args.filter fun a => !Text.startsWith a "-"
  let (line, rest) := (← input).cutLines 1
  setInput rest
  let whole := line.getLast? = some 10
  let text := Utf8.decodeLossy (if whole then line.dropLast else line)
  spread names (text.toList.dropWhile (· == ' '))
  ends (if whole then 0 else 1)

/-- Wait for one job in the background. -/
def waitFor (b : Background) : Run Unit := do
  match b.ends with
  | none => throw .never
  | some ms => wait (some (ms - (← get).clock))

/-- Wait for jobs in the background: those named, or all. What ended one of
them is told only if it was named. -/
def await (args : List String) : Run Unit := do
  let s ← get
  match args with
  | [] => do
    for b in s.background.reverse do waitFor b
    modify fun s => { s with background := [], status := 0 }
  | ids =>
    for id in ids do
      match s.background.find? fun b => toString b.id == id with
      | none => ends 127
      | some b => do
        waitFor b
        if let some signal := b.signal then write s.err (.ofString (fate signal))
        modify fun s =>
          { s with background := s.background.filter fun o => o.id != b.id, status := b.status }

/-- What is asked of `kill`: the signal, or the complaint, and whom it goes to. -/
def killing (args : List String) : Except String (Nat × List String) :=
  let named (name : String) (targets : List String) : Except String (Nat × List String) :=
    match signal? name with
    | some signal => .ok (signal, targets)
    | none => .error ("Illegal option -" ++ String.ofList (name.toList.take 1))
  match args with
  | "-s" :: name :: rest =>
    match signal? name with
    | some signal => .ok (signal, rest)
    | none => .error ("invalid signal number or name: " ++ name)
  | first :: rest =>
    match Text.strip? "-" first with
    | some name => named name rest
    | none => .ok (15, args)
  | [] => .error
      "Usage: kill [-s sigspec | -signum | -sigspec] [pid | job]... or\nkill -l [exitstatus]"

/-- Send a signal to a job in the background: what it would have written
from now on is not written. -/
def strike (signal : Nat) (b : Background) : Run Unit :=
  modify fun s =>
    if isHarmless signal || b.ends.any (· ≤ s.clock) then s
    else
      { s with
        background := s.background.map fun o =>
          if o.id = b.id then ⟨b.id, some s.clock, 128 + signal, some signal⟩ else o
        pipes := s.pipes.map fun p => (p.1, p.2.filter fun w => w.1 ≤ s.clock) }

/-- Send signals. What a trap of this shell says instead is given back. -/
def kill (args : List String) : Run (Option String) := do
  let s ← get
  match killing args with
  | .error complaint => do
    complain ("kill: " ++ complaint)
    ends 2
    return none
  | .ok (signal, targets) =>
    ends 0
    if targets.contains (toString s.pid) || targets.contains "0" then raise signal
    else
      for target in targets do
        match s.background.find? fun b => toString b.id == target || Text.startsWith target "%" with
        | some b => strike signal b
        | none => do
          complain "kill: No such process"
          ends 1
      return none

/-- Say where a command would be found. -/
def locate (names : List String) : Run Unit := do
  for name in names do
    let s ← get
    if own.contains name || (Keyed.find? name s.functions).isSome then
      print (name ++ "\n")
      ends 0
    else
      match s.files.programPath? s.cwd ((Keyed.find? "PATH" s.vars).getD "") name with
      | some path => do
        print (path ++ "\n")
        ends 0
      | none => ends 127
where
  own : List String :=
    [":", ".", "[", "break", "cd", "command", "continue", "echo", "eval", "exec", "exit", "export",
      "false", "kill", "local", "printf", "pwd", "read", "readonly", "return", "set", "shift",
      "test", "trap", "true", "umask", "unset", "wait"]

/-- What a command does that is built in and runs nothing else. -/
def find? (name : String) : Option (List String → Run Unit) :=
  match name with
  | ":" => some fun _ => ends 0
  | "exit" => some fun args => do
    throw (.leave ((← count "exit" args (← get).status.toNat) % 256))
  | "return" => some fun args => do
    throw (.back ((← count "return" args (← get).status.toNat) % 256))
  | "break" | "continue" => some (escape name)
  | "echo" => some (callBuiltin (Utility.echo true) "echo")
  | "true" | "false" | "printf" | "pwd" | "test" | "[" =>
    (Utility.find? name).map fun utility => callBuiltin utility name
  | "cd" => some cd
  | "export" | "readonly" | "local" => some export_
  | "unset" => some fun args =>
    modify fun s => { s with vars := s.vars.filter fun v => !args.contains v.1, status := 0 }
  | "shift" => some shift
  | "set" => some set_
  | "umask" => some fun args => do
    if args.isEmpty then print "0022\n"
    ends 0
  | "wait" => some await
  | "trap" => some trap
  | "read" => some read
  | _ => none

end Builtin

end Shell

end Turnstile
