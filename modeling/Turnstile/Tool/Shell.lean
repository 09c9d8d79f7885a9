import Turnstile.Tool.Execution
/-!
# The shell tool

One command line, run by `sh` in the sandbox. The model may ask for less
time than the policy gives, never for more.
-/

namespace Turnstile

namespace ShellTool

/-- The input. -/
structure Args where
  command : String
  workDir : Option String
  /-- Seconds. -/
  timeout : Option Nat
  deriving DecidableEq, Repr, Inhabited

/-- Read the input. -/
def Args.reader : Reader Args := fun source doc => do
  let workDir := Reader.option Reader.path
  let timeout := Reader.option Reader.nat64
  let fs ← Reader.eagerRecord "struct ShellArgs"
    [("command", Reader.judged Reader.string), ("work_dir", Reader.judged workDir),
      ("timeout_secs", Reader.judged timeout)] source doc
  return {
    command := ← fs.require "command" Reader.string
    workDir := ← fs.getD "work_dir" workDir none
    timeout := ← fs.getD "timeout_secs" timeout none }

/-- The definition shown to the model. -/
def definition : ToolDefinition where
  name := "shell"
  description := "Execute a shell command and return its stdout, stderr and exit code."
  inputSchema := Tool.schema
    [("command", Tool.property "string" "Command line passed to sh -c"),
      ("work_dir", Tool.property "string" "Working directory"),
      ("timeout_secs", Tool.property "integer" "Timeout in seconds (capped by policy)")]
    ["command"]

/-- The policy with the time that was asked for, if that is less. -/
def narrowed (policy : Policy) : Option Nat → Policy
  | some seconds =>
    if 0 < seconds ∧ 1000 * seconds < policy.effectiveTimeout then
      { policy with timeout := some (1000 * seconds) }
    else policy
  | none => policy

/-- The command of an input. -/
def command (args : Args) : Command :=
  { Command.shell args.command with workDir := args.workDir }

/-- A success is an answer, anything else a failed execution. -/
def answer (result : ExecResult) : Except ToolError String :=
  if result.isSuccess then .ok result.render else .error (.execution result.render)

/-- Run the command line. -/
def execute (input : Json) (sandbox : Sandbox) (policy : Policy) : Act ToolError String := do
  let args ← Tool.input Args.reader input
  if Text.allBlank args.command then throw (.invalidInput "command is empty")
  let result ← Act.orElse (sandbox.exec (command args) (narrowed policy args.timeout))
    ToolError.ofSandbox
  if (← Act.look).isCancelled then throw .cancelled
  Act.ofExcept (answer result)

end ShellTool

/-- Command lines in the sandbox. -/
def shellTool : Tool := ⟨ShellTool.definition, fun _ => ShellTool.execute⟩

end Turnstile
