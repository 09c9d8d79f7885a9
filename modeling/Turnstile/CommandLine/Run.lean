import Turnstile.CommandLine.Chat
import Turnstile.Config.Load
import Turnstile.Config.Show
import Turnstile.Sandbox.Build
import Turnstile.Tool.Builtin
/-!
# Carrying out orders

The program as a function on worlds: it reads its configuration, does
what it is asked, and ends with an exit code. What goes wrong on the way
is told on the error output.
-/

namespace Turnstile

namespace CommandLine

/-- What the program works with. -/
structure Surroundings where
  machine : Machine
  network : Network

/-- The name under which notes are kept. -/
def agent : String := "cli"

/-- The version of the program. -/
def version : String := "0.3.0"

/-- The exit code for success. -/
def success : Nat := 0

/-- The exit code for failure. -/
def failure : Nat := 1

/-- The exit code for a command line that cannot be understood. -/
def misused : Nat := 2

/-- An order carried out: an exit code, or a trouble. -/
abbrev Carried := Act Trouble Nat

/-- Print. -/
def print (text : String) : Act Trouble Unit := Act.change (·.print text)

/-- The policy of a configuration. -/
def policyOf (c : Config) : Act Trouble Policy := do
  Act.orElse (Act.ofExcept (c.policy.policy (← Act.look).home)) .ofConfig

/-- The sandbox of a kind, or the configured one. -/
def sandboxOf (s : Surroundings) (c : Config) (kind : Option String) : Act Trouble Sandbox := do
  let kind ← match kind with
    | some name => Act.orElse (Act.ofExcept (SandboxKind.parse name)) .plain
    | none => pure c.sandbox
  Act.orElse (Act.ofExcept (kind.build s.machine (← Act.look) c.container)) .ofSandbox

/-- The tools of a configuration. -/
def registryOf (s : Surroundings) (c : Config) : Registry :=
  (Backends.registerInto ⟨s.network, some .inMemory, some .inMemory, none⟩ .empty c.tools).2

/-! ## Running a command -/

/-- A result as JSON. -/
def resultJson (r : ExecResult) (milliseconds : Nat) : Json :=
  .ofFields [("stdout", .str r.stdout), ("stderr", .str r.stderr), ("exit_code", .int r.exitCode),
    ("duration_ms", .int milliseconds), ("error", (r.note.map Json.str).getD .null)]

/-- Show a result as the command itself would have been seen. -/
def showResult (r : ExecResult) (w : World) : World :=
  let w := (w.print r.stdout).complain r.stderr
  match r.note with
  | some note => w.complain ("toolgate: " ++ note ++ "\n")
  | none => w

/-- The exit code that stands for a command's. -/
def exitCodeFor (code : Int) : Nat := if 0 ≤ code ∧ code ≤ 255 then code.toNat else failure

/-- Run a command. -/
def exec (s : Surroundings) (c : Config) (order : ExecOrder) : Carried := do
  let policy ← policyOf c
  let policy := match order.timeout with
    | some seconds => { policy with timeout := some (seconds * 1000) }
    | none => policy
  let command : Command :=
    { Command.make order.program with
      args := order.args, workDir := order.workDir, stdin := order.stdin }
  let sandbox ← sandboxOf s c order.sandbox
  let start := (← Act.look).clock
  let result ← Act.orElse (sandbox.exec command policy) fun e =>
    (Trouble.ofSandbox e).during ("running " ++ command.display)
  if order.json then
    print ((resultJson result ((← Act.look).clock - start)).pretty ++ "\n")
  else Act.change (showResult result)
  return exitCodeFor result.exitCode

/-! ## Chatting -/

/-- The request of an order. -/
def requestOf (registry : Registry) (order : ChatOrder) : ChatRequest where
  model := order.model.getD ""
  maxTokens := 0
  temperature := none
  messages := (order.system.map (.plain .system)).toList ++ [.plain .user order.prompt]
  tools := if order.noTools then [] else registry.definitions

/-- The vendor of an order, or the configured one. -/
def vendorOf (c : Config) (order : ChatOrder) : Act Trouble Vendor := do
  let kind ← match order.vendor with
    | some name =>
      Act.orElse (Act.ofExcept (VendorKind.parse name)) fun why =>
        .ofChat (.configuration why)
    | none => pure c.vendor
  let settings := (c.vendorConfig kind).settings kind (← Act.look).lookUp?
  Act.orElse (Act.ofExcept (Vendor.build kind settings)) .ofChat

/-- Ask a vendor: the events of its answer. -/
def ask (s : Surroundings) (c : Config) (order : ChatOrder) : Act Trouble (List ChatEvent) := do
  let vendor ← vendorOf c order
  Act.orElse (vendor.chat s.network (requestOf (registryOf s c) order)) .ofChat

/-- What the calls of an answer are dispatched with, and under which
policy. -/
def dispatcherOf (s : Surroundings) (c : Config) (order : ChatOrder) :
    Act Trouble (Dispatcher × Policy) := do
  let policy ← policyOf c
  let sandbox ← sandboxOf s c none
  let approver := if order.yes then Approver.always else askAtTerminal
  return (⟨registryOf s c, sandbox, some approver⟩, policy)

/-- The context calls are dispatched in. -/
def context : ToolContext := ⟨none, agent⟩

/-- Show an answer, and run the calls in it if that is asked for. -/
def actOn (s : Surroundings) (c : Config) (order : ChatOrder) (events : List ChatEvent) :
    Carried := do
  Act.change fun w => events.foldl showEvent w
  let calls := callsIn events
  let failed ← if order.runTools && !calls.isEmpty then do
      let (d, policy) ← dispatcherOf s c order
      (runCalls d context policy calls : StateM World Bool)
    else pure false
  return if failed || hasError events then failure else success

/-- Ask a vendor, and act on the answer. -/
def chat (s : Surroundings) (c : Config) (order : ChatOrder) : Carried := do
  actOn s c order (← ask s c order)

/-! ## Telling about things -/

/-- A definition with its fields in the order they are written. -/
def definitionJson (d : ToolDefinition) : Json :=
  .obj [("name", .str d.name), ("description", .str d.description),
    ("input_schema", d.inputSchema)]

/-- Print the tools. -/
def tools (s : Surroundings) (c : Config) : Carried := do
  print ((Json.arr ((registryOf s c).definitions.map definitionJson)).pretty ++ "\n")
  return success

/-- Check a path. -/
def checkPath (c : Config) (path : String) (write : Bool) : Carried := do
  let policy ← policyOf c
  let w ← Act.look
  let mode := if write then "write" else "read"
  match (if write then Guard.checkWrite else Guard.checkRead) w.files w.cwd policy path with
  | .ok checked =>
    print ("allowed (" ++ mode ++ "): " ++ checked.text ++ "\n")
    return success
  | .error refusal =>
    print ("denied (" ++ mode ++ "): " ++ refusal.message ++ "\n")
    return failure

/-- A line about a place the configuration may come from. -/
def sourceLine (source : ConfigSource) : String :=
  let label := source.label ++ ":"
  "  [" ++ (if source.found then "FOUND" else "     ") ++ "] " ++ label ++
    String.ofList (List.replicate (8 - label.length) ' ') ++ " " ++ source.path ++ "\n"

/-- Print the configuration and where it may come from. -/
def showConfig (c : Config) (explicit : Option String) : Carried := do
  let w ← Act.look
  print ("Configuration sources (in priority order):\n  [ENV  ] TOOLGATE_* variables\n" ++
    String.join ((Config.sources w explicit).map sourceLine) ++
    "  [     ] Default: built-in defaults\n\n")
  match c.redacted.toToml with
  | .ok text =>
    print (text ++ "\n")
    return success
  | .error why => throw (.plain why)

/-! ## The program -/

/-- Make the file for the log, with the directories above it. -/
def openLog (c : Config) : Act Trouble Unit :=
  match c.logFile with
  | none => return
  | some path => do
    let parent := (Path.parent? path).getD ""
    let directory := if parent.isEmpty then "." else parent
    let w ← Act.look
    let (files, problem) := w.files.createDirectories w.cwd directory
    Act.change fun w => { w with files }
    if let some cause := problem then
      throw ((Trouble.plain cause.message).during ("creating log directory " ++ directory))
    match Path.fileName? path with
    | none => throw (.plain "logging.file has no file name")
    | some name =>
      if let .ok files := files.write w.cwd (Path.join directory name) true [] then
        Act.change fun w => { w with files }

/-- Carry out an invocation. -/
def carryOut (s : Surroundings) (i : Invocation) : Carried := do
  let w ← Act.look
  let c ← if i.noConfig then pure Config.default
    else Act.orElse (Act.ofExcept (Config.load w i.configFile)) .ofConfig
  openLog c
  match i.order with
  | .exec order => exec s c order
  | .chat order => chat s c order
  | .tools => tools s c
  | .checkPath path write => checkPath c path write
  | .config => showConfig c i.configFile

/-- The words on how to call the program. -/
def usage : String :=
  "Usage: toolgate [OPTIONS] <exec|chat|tools|check-path|config|help>\n"

/-- Run the program on the words of a command line. -/
def run (s : Surroundings) (words : List String) : StateM World Nat := do
  match Invocation.parse words with
  | .error .help =>
    modify (·.print usage)
    return success
  | .error .version =>
    modify (·.print ("toolgate " ++ version ++ "\n"))
    return success
  | .error (.misuse why) =>
    modify (·.complain ("error: " ++ why ++ "\n\n" ++ usage))
    return misused
  | .ok invocation =>
    match ← (carryOut s invocation).run with
    | .ok code => return code
    | .error trouble =>
      modify (·.complain ("Error: " ++ trouble.text ++ "\n"))
      return failure

end CommandLine

end Turnstile
