import Turnstile.Guard
import Turnstile.World
/-!
# Sandboxes — where a command runs

A sandbox takes a command and a policy. What goes wrong with a process
once it was to be started is a result; an error means that nothing was
started.
-/

namespace Turnstile

/-- Why a sandbox did not start a command, or could not be built. -/
inductive SandboxError where
  | emptyProgram
  | refused (path : PathRefusal)
  | noRuntime (tried : String)
  | setup (text : String)
  deriving DecidableEq, Repr, Inhabited

namespace SandboxError

/-- The message. -/
def message : SandboxError → String
  | .emptyProgram => "Command program is empty"
  | .refused path => "Policy violation: " ++ path.message
  | .noRuntime tried => "No container runtime found (tried: " ++ tried ++ ")"
  | .setup text => "Sandbox setup failed: " ++ text

end SandboxError

/-- A place where commands run. -/
structure Sandbox where
  name : String
  exec : Command → Policy → Act SandboxError ExecResult

/-- What starts processes and tells what became of them. -/
abbrev Machine := Launch → StateM World Run

namespace Sandbox

/-- The guard's answer on the tree as it is. -/
def guarded {α : Type} (check : FileTree → AbsPath → Except PathRefusal α) : Act SandboxError α := do
  let w ← Act.look
  Act.orElse (Act.ofExcept (check w.files w.cwd)) .refused

/-- Run commands as children of this program. The policy limits the
working directory, the time and the output; the network is not limited. -/
def process (machine : Machine) : Sandbox where
  name := "process"
  exec command policy := do
    if command.isBlank then throw .emptyProgram
    let workDir ← match command.workDir with
      | none => pure none
      | some dir => do
        let dir ← guarded fun files cwd =>
          Guard.checkAllowed files cwd policy.allowedPaths (.unrestricted dir)
        pure (some dir.text)
    let run ← (machine {
      program := command.program
      args := command.args
      env := command.env
      workDir
      stdin := command.stdin
      limit := policy.effectiveTimeout
      heedsCancel := true } : StateM World Run)
    return run.result command.program policy.effectiveTimeout policy.effectiveMaxOutputBytes

end Sandbox

end Turnstile
