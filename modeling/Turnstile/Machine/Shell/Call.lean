import Turnstile.Machine.Shell.Word
/-!
# The shell — calling utilities

Giving a utility the shell's input and using its effect, opening
redirections, and raising signals.
-/

namespace Turnstile

namespace Shell

/-- The interpreter a script names in its first line, with an argument. -/
def interpreter? (content : Bytes) : Option (List String) :=
  match (Text.lines (Utf8.decodeLossy content)).head? with
  | some line =>
    (Text.strip? "#!" line).map fun rest =>
      let (program, arg) := (Text.trim rest).toList.span (· != ' ')
      String.ofList program :: if arg.isEmpty then [] else [Text.trim (String.ofList arg)]
  | none => none

/-- Run something and put back what a shell of its own does not share. -/
def apart {α : Type} (act : Run α) : Run α := fun s =>
  let (result, t) := act s
  (result, { s with files := t.files, clock := t.clock, pipes := t.pipes, inputs := t.inputs, next := t.next })

/-- The status of something that may leave. -/
def statusOf (act : Run Unit) : Run Int := fun s =>
  match act s with
  | (.ok (), t) => (.ok t.status, t)
  | (.error (.leave n), t) => (.ok n, t)
  | (.error (.back n), t) => (.ok n, t)
  | (.error stop, t) => (.error stop, t)

/-- Keep the streams as they are. -/
def keepingStreams {α : Type} (act : Run α) : Run α := fun s =>
  let (result, t) := act s
  (result, { t with input := s.input, out := s.out, err := s.err })

/-- Use the effect of a utility. -/
def perform (e : Effect) : Run Unit := do
  modify fun s => { s with files := e.files }
  setInput e.rest
  write (← get).err (.ofString e.err)
  write (← get).out e.out
  modify fun s => { s with status := e.status }
  wait e.wait

/-- Call a utility. -/
def call (utility : Call → Effect) (name : String) (args : List String) : Run Unit := do
  let s ← get
  perform (utility ⟨name, args, ← input, s.files, s.cwd, environment s⟩)

/-- Call a utility that is built in: its complaints are the shell's. -/
def callBuiltin (utility : Call → Effect) (name : String) (args : List String) : Run Unit := do
  let s ← get
  let e := utility ⟨name, args, ← input, s.files, s.cwd, environment s⟩
  let place := s.name ++ ": " ++ toString s.line ++ ": "
  perform { e with err := if e.err.isEmpty then "" else place ++ e.err }

/-- Open what a redirection names. -/
def redirect (fd : Nat) (operator target : String) : Run Bool := do
  let s ← get
  let point (sink : Sink) : Run Bool := do
    modify fun s => if fd = 1 then { s with out := sink } else if fd = 2 then { s with err := sink } else s
    return true
  match operator with
  | "<" =>
    match Call.open_ ⟨"", [], .none, s.files, s.cwd, []⟩ target with
    | .ok feed =>
      let n ← fresh
      modify fun s => { s with input := n }
      setInput feed
      return true
    | .error _ =>
      complain ("cannot open " ++ target ++ ": No such file")
      return false
  | ">&" =>
    match target with
    | "1" => point s.out
    | "2" => point s.err
    | _ => point .nowhere
  | "<&" => return true
  | operator =>
    match s.files.write s.cwd target (operator == ">>") [] with
    | .ok files =>
      set { s with files }
      match files.stat s.cwd target with
      | .ok (place, .file _ _) => point (.file place)
      | _ => point .nowhere
    | .error e =>
      complain ("cannot create " ++ target ++ ": " ++
        if e = .notFound then "Directory nonexistent" else Call.words e)
      return false

/-- Raise a signal in this shell; a trap gives what to do instead. -/
def raise (signal : Nat) : Run (Option String) := do
  let s ← get
  let trap := s.traps.find? fun t => signal? t.1 == some signal
  match trap with
  | some t => if signal = 9 ∨ signal = 19 then throw (.killed signal) else return some t.2
  | none =>
    if isStopping signal then throw .never
    else if isHarmless signal then return none
    else throw (.killed signal)

end Shell

end Turnstile
