import Turnstile.CommandLine.Options
/-!
# Orders

What a command line asks for. Some options may stand before the name of
the command as well as behind it; there the one behind counts.
-/

namespace Turnstile

namespace CommandLine

/-- What `exec` is asked. -/
structure ExecOrder where
  workDir : Option String
  /-- In seconds. -/
  timeout : Option Nat
  stdin : Option String
  sandbox : Option String
  json : Bool
  program : String
  args : List String
  deriving DecidableEq, Repr, Inhabited

/-- What `chat` is asked. -/
structure ChatOrder where
  prompt : String
  vendor : Option String
  model : Option String
  system : Option String
  noTools : Bool
  runTools : Bool
  yes : Bool
  deriving DecidableEq, Repr, Inhabited

/-- What is asked for. -/
inductive Order where
  | exec (order : ExecOrder)
  | chat (order : ChatOrder)
  | tools
  | checkPath (path : String) (write : Bool)
  | config
  deriving DecidableEq, Repr, Inhabited

/-- A command line. -/
structure Invocation where
  verbosity : Nat
  /-- The file to read the configuration from. -/
  configFile : Option String
  /-- Read no configuration. -/
  noConfig : Bool
  order : Order
  deriving DecidableEq, Repr, Inhabited

/-- The options that go with every command. -/
def common : List Switch :=
  [⟨"verbose", some 'v', .count⟩, ⟨"config", none, .path⟩, ⟨"no-config", none, .nothing⟩,
    ⟨"help", some 'h', .nothing⟩]

/-- The form up to the name of the command. -/
def outerForm : Form := ⟨⟨"version", some 'V', .nothing⟩ :: common, [], false⟩

/-- The commands with the forms of what stands behind them. -/
def forms : List (String × Form) :=
  [("exec",
      ⟨[⟨"workdir", some 'C', .path⟩, ⟨"timeout", some 't', .number⟩, ⟨"stdin", none, .text⟩,
        ⟨"sandbox", none, .text⟩, ⟨"json", none, .nothing⟩] ++ common, [], true⟩),
    ("chat",
      ⟨[⟨"provider", some 'p', .text⟩, ⟨"model", some 'm', .text⟩, ⟨"system", some 's', .text⟩,
        ⟨"no-tools", none, .nothing⟩, ⟨"run-tools", none, .nothing⟩,
        ⟨"yes", some 'y', .nothing⟩] ++ common, [.text], false⟩),
    ("tools", ⟨common, [], false⟩),
    ("check-path", ⟨⟨"write", some 'w', .nothing⟩ :: common, [.path], false⟩),
    ("config", ⟨common, [], false⟩)]

/-- Something that must be there is not. -/
def lacking {α : Type} (what : String) : Except Halt α :=
  .error (.misuse ("the following required arguments were not provided: " ++ what))

/-- The order that a command's words give. -/
def Order.of (command : String) (p : Parsed) : Except Halt Order :=
  match command, p.operands with
  | "exec", _ =>
    match p.program with
    | [] => lacking "-- <PROGRAM>..."
    | program :: args => .ok (.exec {
        workDir := p.value? "workdir"
        timeout := (p.value? "timeout").bind number?
        stdin := p.value? "stdin"
        sandbox := p.value? "sandbox"
        json := p.has "json"
        program, args })
  | "chat", [prompt] => .ok (.chat {
      prompt
      vendor := p.value? "provider"
      model := p.value? "model"
      system := p.value? "system"
      noTools := p.has "no-tools"
      runTools := p.has "run-tools"
      yes := p.has "yes" })
  | "chat", _ => lacking "<PROMPT>"
  | "tools", _ => .ok .tools
  | "check-path", [path] => .ok (.checkPath path (p.has "write"))
  | "check-path", _ => lacking "<PATH>"
  | _, _ => .ok .config

/-- Help with a command was asked for. -/
def helpWith : List String → Halt
  | [] => .help
  | [command] =>
    if (forms.map (·.1)).contains command || command == "help" then .help
    else .misuse ("unrecognized subcommand '" ++ command ++ "'")
  | command :: _ => .misuse ("unrecognized subcommand '" ++ command ++ "'")

/-- What a command line asks for. -/
def Invocation.parse (words : List String) : Except Halt Invocation := do
  let (outer, rest) ← take outerForm ("help" :: forms.map (·.1)) .empty none words
  match rest with
  | [] => throw (.misuse "'toolgate' requires a subcommand but one was not provided")
  | command :: rest =>
    match forms.find? (·.1 == command) with
    | none => throw (helpWith rest)
    | some (_, form) =>
      let (inner, _) ← take form [] .empty none rest
      let order ← Order.of command inner
      return {
        verbosity := (if inner.has "verbose" then inner else outer).times "verbose"
        configFile := inner.value? "config" <|> outer.value? "config"
        noConfig := outer.has "no-config" || inner.has "no-config"
        order }

end CommandLine

end Turnstile
