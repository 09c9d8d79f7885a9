import Turnstile.Machine.Shell.Builtin
import Turnstile.Machine.Sum
/-!
# The shell — running scripts

Words are expanded and commands run in turn. Running takes fuel, because a
script may run for ever; one that uses it up never ends.
-/

namespace Turnstile

namespace Shell

mutual

/-- The parts of a word. -/
def parts : Nat → Script.Word → Run (List Part)
  | 0, _ => throw .never
  | _, [] => return []
  | n + 1, piece :: rest => do
    let first ← part n piece
    return first ++ (← parts n rest)

/-- What a piece gives. -/
def part : Nat → Script.Piece → Run (List Part)
  | 0, _ => throw .never
  | _, .text s quoted => return [marked quoted s]
  | n + 1, .command body quoted => do
    let pipe ← fresh
    let status ← apart (statusOf (do
      modify fun s => { s with out := .pipe pipe }
      jobs n body))
    modify fun s => { s with status }
    let text := Utf8.decodeLossy (← written pipe).bytes
    let text := Text.trimEnd (· == '\n') text
    return [if quoted then marked true text else .loose text]
  | n + 1, .sum word quoted => do
    let text := plain (joinedMarks (← parts n word))
    let s ← get
    let look (name : String) : Int := (((param? s name).bind Format.integer?).getD 0)
    match Sum.eval? look text with
    | some v => return [if quoted then marked true (toString v) else .loose (toString v)]
    | none =>
      complain ("arithmetic expression: expecting primary: \"" ++ text ++ "\"")
      throw (.leave 2)
  | n + 1, .param name operator word quoted => do
    let s ← get
    let value := param? s name
    let give (text : String) : List Part := [if quoted then marked true text else .loose text]
    let alternative : Run (List Part) := do
      let ps ← parts n word
      return if quoted then [.marks ((joinedMarks ps).map fun m => (m.1, true))] else ps
    let isSet := value.isSome && !(Text.startsWith operator ":" && value == some "")
    if s.unsetIsError && value.isNone && name != "@" && name != "*" &&
        ["-", ":-", "+", ":+", "=", ":=", "?", ":?"].all (· != operator) then
      complain (name ++ ": parameter not set")
      throw (.leave 2)
    match operator with
    | "" =>
      if name == "@" then
        let args := s.args.map fun a => if quoted then marked true a else Part.loose a
        return args.intersperse Part.gap
      else if name == "*" && !quoted then
        return (s.args.map Part.loose).intersperse Part.gap
      else return give (value.getD "")
    | "length" => return give (toString (value.getD "").length)
    | "-" | ":-" => if isSet then return give (value.getD "") else alternative
    | "+" | ":+" => if isSet then alternative else return give ""
    | "=" | ":=" =>
      if isSet then return give (value.getD "")
      else
        let text := plain (joinedMarks (← parts n word))
        setVar name text
        return give text
    | "?" | ":?" =>
      if isSet then return give (value.getD "")
      else
        let text := plain (joinedMarks (← parts n word))
        complain (name ++ ": " ++ if text.isEmpty then "parameter not set" else text)
        throw (.leave 2)
    | op =>
      let pattern := joinedMarks (← parts n word)
      let text := (value.getD "").toList
      return give (String.ofList
        (stripMatch (Text.startsWith op "#") (op.length = 2) pattern text))

/-- The fields of words. -/
def fields : Nat → List Script.Word → Run (List String)
  | 0, _ => throw .never
  | _, [] => return []
  | n + 1, word :: rest => do
    let s ← get
    let ps ← parts n (homeward s word)
    let here := (fieldsOf [] none ps).flatMap (glob (← get))
    return here ++ (← fields n rest)

/-- A word as one text. -/
def single : Nat → Script.Word → Run String
  | 0, _ => throw .never
  | n + 1, word => do
    let ps ← parts n (homeward (← get) word)
    return plain (joinedMarks ps)

/-- Open redirections in turn. -/
def redirectAll : Nat → List Script.Redirect → Run Bool
  | 0, _ => throw .never
  | _, [] => return true
  | n + 1, .mk fd operator word :: rest => do
    let target ← single n word
    if ← redirect fd operator target then redirectAll n rest
    else
      modify fun s => { s with status := 2 }
      return false

/-- Run a command with redirections. -/
def redirected : Nat → List Script.Redirect → Run Unit → Run Unit
  | 0, _, _ => throw .never
  | n + 1, rs, act => keepingStreams do
    if ← redirectAll n rs then act

/-- Set variables from words. -/
def assign : Nat → List (String × Script.Word) → Run Unit
  | 0, _ => throw .never
  | _, [] => return
  | n + 1, (name, word) :: rest => do
    let value ← single n word
    setVar name value
    assign n rest

/-- Run the text of a script here. -/
def runText : Nat → String → Run Unit
  | 0, _ => throw .never
  | n + 1, text => do
    let before ← get
    set { before with line := 1, lineEnds := text.toList.count '\n' }
    runLines n text.toList
    modify fun s => { s with line := before.line, lineEnds := before.lineEnds }

/-- Run a script line by line: what stands before a mistake is run. -/
def runLines : Nat → Script.Input → Run Unit
  | 0, _ => throw .never
  | _, [] => return
  | n + 1, cs =>
    match Script.next cs with
    | .ok (body, rest) => do
      jobs n body
      runLines n rest
    | .error complaint => do
      modify fun s => { s with line := s.lineEnds + 1 }
      complain ("Syntax error: " ++ complaint)
      throw (.leave 2)

/-- Run a shell of its own on a script. -/
def runShell : Nat → (options : List Char) → (name : String) → (args : List String) → String →
    Run Unit
  | 0, _, _, _, _ => throw .never
  | n + 1, options, name, args, text => do
    let s ← get
    let child : Run Unit := do
      set (Builtin.withOptions true options { s with
        name, args
        vars := environment s
        functions := []
        traps := []
        pid := s.pid + s.next + 1
        background := []
        status := 0
        exitOnError := false
        unsetIsError := false
        loops := 0
        line := 1
        next := s.next + 1 })
      runText n text
      atExit n
    let (status, signal) ← fun t =>
      match apart (statusOf child) t with
      | (.error (.killed signal), t) => (.ok ((128 + signal : Int), some signal), t)
      | (.error stop, t) => (.error stop, t)
      | (.ok status, t) => (.ok (status, none), t)
    modify fun s => { s with status, signal }

/-- Do what is trapped for the end. -/
def atExit : Nat → Run Unit
  | 0 => throw .never
  | n + 1 => do
    match (← get).traps.find? fun t => t.1 == "EXIT" || t.1 == "0" with
    | some t =>
      modify fun s => { s with traps := [] }
      runText n t.2
    | none => return

/-- Run a program that was found. A script is given to the interpreter it
names, or else to the shell. -/
def runFound : Nat → String → List String → AbsPath → Entry → Run Unit
  | 0, _, _, _, _ => throw .never
  | n + 1, name, args, place, entry =>
    let path := if name.toList.contains '/' then name else place.text
    match entry with
    | .program "sh" => shellProgram n [] name args
    | .program "env" => environmentProgram n args
    | .program program =>
      match Utility.find? program with
      | some utility => call utility name args
      | none => Builtin.ends 127
    | .file content _ =>
      match interpreter? content with
      | none => runShell n [] path args (Utf8.decodeLossy content)
      | some [] => Builtin.ends 126
      | some (program :: arg) => do
        let s ← get
        match s.files.findProgram s.cwd "" program with
        | .ok (p, entry) => runFound n program (arg ++ path :: args) p entry
        | .error _ => do
          complain (name ++ ": not found")
          Builtin.ends 127
    | _ => Builtin.ends 126

/-- Run a program with other variables, or list them. -/
def environmentProgram : Nat → List String → Run Unit
  | 0, _ => throw .never
  | n + 1, args => do
    let s ← get
    let (base, args) : List (String × String) × List String := match args with
      | "-i" :: rest => ([], rest)
      | args => (environment s, args)
    let (settings, command) := args.span fun a => a.toList.contains '='
    let vars : List (String × String) := settings.foldl (fun vars a =>
      let (name, value) := a.toList.span (· != '=')
      Keyed.insert (String.ofList name) (String.ofList (value.drop 1)) vars) base
    match command with
    | [] => do
      print (String.join (vars.map fun v => v.1 ++ "=" ++ v.2 ++ "\n"))
      Builtin.ends 0
    | command :: args => do
      modify fun s => { s with vars, exported := vars.map (·.1) }
      match s.files.findProgram s.cwd ((Keyed.find? "PATH" vars).getD "") command with
      | .ok (place, entry) => runFound n command args place entry
      | .error e => do
        write s.err (.ofString ("env: '" ++ command ++ "': " ++ Call.words e ++ "\n"))
        Builtin.ends (if e = .permissionDenied then 126 else 127)
      modify fun t => { t with vars := s.vars, exported := s.exported }

/-- Run the shell as a program. Options come first; with `c` among them the
next argument is the script. -/
def shellProgram : Nat → List Char → String → List String → Run Unit
  | 0, _, _, _ => throw .never
  | n + 1, options, name, args => do
    match args with
    | [] => do
      let text := Utf8.decodeLossy (← input).bytes
      setInput .none
      runShell n options name [] text
    | arg :: rest =>
      if Text.startsWith arg "-" && arg != "-" then
        shellProgram n (options ++ arg.toList.tail) name rest
      else if options.contains 'c' then
        runShell n options (rest.headD name) rest.tail arg
      else
        let s ← get
        match s.files.read s.cwd arg with
        | .ok content => runShell n options arg rest (Utf8.decodeLossy content)
        | .error _ => do
          write s.err (.ofString (name ++ ": 0: cannot open " ++ arg ++ ": No such file\n"))
          Builtin.ends 2

/-- Look a program up and run it. -/
def runProgram : Nat → String → List String → Run Unit
  | 0, _, _ => throw .never
  | n + 1, name, args => do
    let s ← get
    match s.files.findProgram s.cwd ((Keyed.find? "PATH" s.vars).getD "") name with
    | .ok (place, entry) => do
      runFound n name args place entry
      match (← get).signal with
      | some signal => do
        write s.err (.ofString (fate signal))
        modify fun s => { s with signal := none }
      | none => return
    | .error .permissionDenied =>
      complain (name ++ ": Permission denied")
      modify fun s => { s with status := 126 }
    | .error _ =>
      complain (name ++ ": not found")
      modify fun s => { s with status := 127 }

/-- Run what is built in, telling whether it is. -/
def builtin : Nat → String → List String → Run Bool
  | 0, _, _ => throw .never
  | n + 1, name, args => do
    match name with
    | "eval" => do
      Builtin.ends 0
      runText n (Text.join " " args)
      return true
    | "." => do
      sourceFile n args
      return true
    | "exec" => do
      replace n args
      return true
    | "command" =>
      match args with
      | [] => Builtin.ends 0
      | "-v" :: names => Builtin.locate names
      | program :: args => if ← builtin n program args then pure () else runProgram n program args
      return true
    | "kill" => do
      if let some action := ← Builtin.kill args then
        runText n action
        Builtin.ends 0
      return true
    | name =>
      match Builtin.find? name with
      | some act => do
        act args
        return true
      | none => return false

/-- Run the script in a file here. -/
def sourceFile : Nat → List String → Run Unit
  | 0, _ => throw .never
  | _, [] => Builtin.ends 0
  | n + 1, path :: _ => do
    let s ← get
    match s.files.read s.cwd path with
    | .ok content => do
      Builtin.ends 0
      runText n (Utf8.decodeLossy content)
    | .error _ => do
      complain (".: cannot open " ++ path ++ ": No such file")
      throw (.leave 2)

/-- Run a program in the place of this shell. -/
def replace : Nat → List String → Run Unit
  | 0, _ => throw .never
  | _, [] => Builtin.ends 0
  | n + 1, program :: args => do
    let s ← get
    match s.files.findProgram s.cwd ((Keyed.find? "PATH" s.vars).getD "") program with
    | .ok (place, entry) => do
      runFound n program args place entry
      let t ← get
      match t.signal with
      | some signal => throw (.killed signal)
      | none => throw (.leave t.status)
    | .error e => do
      complain ("exec: " ++ program ++ ": " ++
        if e = .permissionDenied then "Permission denied" else "not found")
      throw (.leave (if e = .permissionDenied then 126 else 127))

/-- Run a simple command. -/
def simple : Nat → List (String × Script.Word) → List Script.Word → Run Unit
  | 0, _, _ => throw .never
  | n + 1, settings, words => do
    match ← fields n words with
    | [] =>
      modify fun s => { s with status := 0 }
      assign n settings
    | name :: args =>
      let before ← get
      assign n settings
      modify fun s => { s with exported := s.exported ++ settings.map (·.1) }
      match Keyed.find? name before.functions with
      | some body =>
        modify fun s => { s with args }
        let status ← statusOf (command n body)
        modify fun s => { s with args := before.args, status }
      | none => if ← builtin n name args then pure () else runProgram n name args
      if !settings.isEmpty && name != "export" then
        modify fun s => { s with vars := before.vars, exported := before.exported }

/-- Run a command. -/
def command : Nat → Script.Command → Run Unit
  | 0, _ => throw .never
  | n + 1, c =>
    match c with
    | .simple settings words rs below => do
      modify fun s => { s with line := s.lineEnds + 1 - below }
      if words.map literal? = [some "exec"] then
        assign n settings
        if ← redirectAll n rs then modify fun s => { s with status := 0 } else throw (.leave 2)
      else redirected n rs (simple n settings words)
    | .group false body rs => redirected n rs (jobs n body)
    | .group true body rs => do
      let status ← apart (statusOf (redirected n rs (jobs n body)))
      modify fun s => { s with status }
    | .choice branches otherwise rs => redirected n rs (choose n branches otherwise)
    | .each name words body rs => redirected n rs do
      let values ← match words with
        | some words => fields n words
        | none => pure (← get).args
      eachOf n name values body
    | .loop while_ test body rs => redirected n rs (loop n while_ test body)
    | .select word arms rs => redirected n rs do
      let text ← single n word
      modify fun s => { s with status := 0 }
      select n text arms
    | .define name body => modify fun s =>
        { s with functions := Keyed.insert name body s.functions, status := 0 }

/-- Run the branch whose test succeeds. -/
def choose : Nat → List (List Script.Job × List Script.Job) → List Script.Job → Run Unit
  | 0, _, _ => throw .never
  | n + 1, [], otherwise => do
    modify fun s => { s with status := 0 }
    jobs n otherwise
  | n + 1, (test, body) :: rest, otherwise => do
    tested n test
    if (← get).status = 0 then jobs n body else choose n rest otherwise

/-- Run a test; its failure does not end the script. -/
def tested : Nat → List Script.Job → Run Unit
  | 0, _ => throw .never
  | n + 1, test => do
    let strict := (← get).exitOnError
    modify fun s => { s with exitOnError := false }
    jobs n test
    modify fun s => { s with exitOnError := strict }

/-- Run a body once; whether its loop goes on. -/
def turn : Nat → List Script.Job → Run Bool
  | 0, _ => throw .never
  | n + 1, body => fun s =>
    let (result, t) := jobs n body { s with loops := s.loops + 1 }
    let t := { t with loops := s.loops }
    match result with
    | .error (.breakOut levels) =>
      ((if 1 < levels then .error (.breakOut (levels - 1)) else .ok false), { t with status := 0 })
    | .error (.goOn levels) =>
      ((if 1 < levels then .error (.goOn (levels - 1)) else .ok true), { t with status := 0 })
    | .error stop => (.error stop, t)
    | .ok () => (.ok true, t)

/-- Run a body for each value. -/
def eachOf : Nat → String → List String → List Script.Job → Run Unit
  | 0, _, _, _ => throw .never
  | _, _, [], _ => return
  | n + 1, name, value :: rest, body => do
    setVar name value
    if ← turn n body then eachOf n name rest body

/-- Run a body while its test succeeds or fails. -/
def loop : Nat → Bool → List Script.Job → List Script.Job → Run Unit
  | 0, _, _, _ => throw .never
  | n + 1, while_, test, body => do
    let last := (← get).status
    tested n test
    if ((← get).status = 0) = while_ then
      if ← turn n body then loop n while_ test body
    else modify fun s => { s with status := if last = s.status then last else 0 }

/-- Run the arm whose pattern matches. -/
def select : Nat → String → List (List Script.Word × List Script.Job) → Run Unit
  | 0, _, _ => throw .never
  | _, _, [] => return
  | n + 1, text, (patterns, body) :: rest => do
    if ← anyMatch n text patterns then jobs n body else select n text rest

/-- Some pattern matches. -/
def anyMatch : Nat → String → List Script.Word → Run Bool
  | 0, _, _ => throw .never
  | _, _, [] => return false
  | n + 1, text, pattern :: rest => do
    let ps ← parts n pattern
    if isMatch (joinedMarks ps) text.toList then return true else anyMatch n text rest

/-- Run commands joined by pipes. All start at the same time; one that
writes for ever ends when its reader has. -/
def piped : Nat → List Script.Command → Run Unit
  | 0, _ => throw .never
  | _, [] => return
  | n + 1, [last] => command n last
  | n + 1, first :: rest => do
    let pipe ← fresh
    let start := (← get).clock
    let ended : Except Stop Int ← fun s =>
      let (result, t) := apart (statusOf (do
        modify fun s => { s with out := .pipe pipe }
        command n first)) s
      (.ok result, t)
    let feed ← written pipe
    let finished := (← get).clock
    modify fun s => { s with clock := start }
    let status ← apart (statusOf (do
      modify fun s => { s with input := s.next, next := s.next + 1 }
      setInput feed
      piped n rest))
    modify fun s => { s with status, clock := max s.clock (if feed.ends then finished else start) }
    match ended with
    | .error .never => if feed.ends then throw .never else return
    | _ => return

/-- Run a pipeline. -/
def pipeline : Nat → Script.Pipeline → Run Unit
  | 0, _ => throw .never
  | n + 1, .mk negated commands => do
    match commands with
    | [one] => if negated then tested' n one else command n one
    | many => piped n many
    if negated then modify fun s => { s with status := if s.status = 0 then 1 else 0 }
    else
      let s ← get
      if s.exitOnError && s.status != 0 then throw (.leave s.status)

/-- Run a command whose failure does not end the script. -/
def tested' : Nat → Script.Command → Run Unit
  | 0, _ => throw .never
  | n + 1, c => do
    let strict := (← get).exitOnError
    modify fun s => { s with exitOnError := false }
    command n c
    modify fun s => { s with exitOnError := strict }

/-- Run pipelines as long as their joints say. -/
def chain : Nat → List (Bool × Script.Pipeline) → Run Unit
  | 0, _ => throw .never
  | _, [] => return
  | n + 1, (and, next) :: rest => do
    if ((← get).status = 0) = and then pipeline n next
    chain n rest

/-- Run a job. -/
def job : Nat → Script.Job → Run Unit
  | 0, _ => throw .never
  | n + 1, .mk background first rest => do
    let strict := (← get).exitOnError
    let body : Run Unit := do
      if rest.isEmpty then pipeline n first
      else
        modify fun s => { s with exitOnError := false }
        pipeline n first
        chain n rest
        modify fun s => { s with exitOnError := strict }
    if background then
      let s ← get
      let id := s.pid + (← fresh) + 1
      let (outcome, t) := apart (statusOf (do
        modify fun s => { s with input := s.next, next := s.next + 1 }
        body)) (← get)
      let job : Background := match outcome with
        | .ok status => ⟨id, some t.clock, status, none⟩
        | .error (.killed signal) => ⟨id, some t.clock, 128 + signal, some signal⟩
        | .error _ => ⟨id, none, 0, none⟩
      set { t with clock := s.clock, status := 0, background := job :: s.background }
    else body

/-- Run jobs in turn. -/
def jobs : Nat → List Script.Job → Run Unit
  | 0, _ => throw .never
  | _, [] => return
  | n + 1, first :: rest => do
    job n first
    jobs n rest

end

end Shell

end Turnstile
