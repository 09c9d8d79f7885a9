import Turnstile.Text.Cap
import Turnstile.Tool.Registry
/-!
# Dispatch — from a call to its result

A call is looked up, approved if the policy asks for it, and run once.
What the tool answers goes back under the id of the call; a failed
execution is an answer too, any other failure ends the turn.
-/

namespace Turnstile

/-- The decision on a call. -/
inductive Approval where
  | approved
  | denied (reason : String)
  deriving DecidableEq, Repr, Inhabited

/-- Someone who decides on calls. -/
abbrev Approver := ToolCall → StateM World Approval

namespace Approver

/-- Approve every call. -/
def always : Approver := fun _ => pure .approved

/-- Deny every call; without a reason the policy is named. -/
def never (reason : String) : Approver := fun _ =>
  pure (.denied (if reason.isEmpty then "denied by policy" else reason))

end Approver

namespace ToolResult

/-- The answer to a call. -/
def ofAnswer (id : String) : Except ToolError String → Except ToolError ToolResult
  | .ok content => .ok ⟨id, content, false⟩
  | .error (.execution text) => .ok ⟨id, text, true⟩
  | .error e => .error e

end ToolResult

/-- What calls are dispatched with. -/
structure Dispatcher where
  registry : Registry
  sandbox : Sandbox
  approver : Option Approver

namespace Dispatcher

/-- Have a call approved. -/
def approve (d : Dispatcher) (call : ToolCall) : Act ToolError Unit :=
  match d.approver with
  | none =>
    throw (.policyViolation
      ("tool '" ++ call.name ++ "' requires approval and no approver is configured"))
  | some approver => do
    match ← (approver call : StateM World Approval) with
    | .approved => return
    | .denied reason =>
      throw (.policyViolation ("tool '" ++ call.name ++ "' denied: " ++ reason))

/-- The tool a call goes to, once nothing stands in its way. -/
def vet (d : Dispatcher) (call : ToolCall) (policy : Policy) : Act ToolError Tool := do
  if (← Act.look).isCancelled then throw .cancelled
  let tool ← Act.ofExcept (d.registry.get call.name)
  if policy.requireApproval then d.approve call
  return tool

/-- Run a call. -/
def dispatch (d : Dispatcher) (context : ToolContext) (call : ToolCall) (policy : Policy) :
    Act ToolError ToolResult := do
  let tool ← d.vet call policy
  ExceptT.mk (ToolResult.ofAnswer call.id <$>
    (tool.execute context call.input d.sandbox policy).run)

end Dispatcher

namespace ToolCall

/-- Bytes shown of an argument. -/
def previewBytes : Nat := 60

/-- The arguments that tell most about a call. -/
def telling : List String := ["path", "command", "url", "key", "query"]

/-- A short sight of the arguments: a telling one, else the first text. -/
def preview (call : ToolCall) : String :=
  match call.input with
  | .obj fields =>
    let shown := (telling.findSome? call.text?) <|> fields.findSome? (·.2.asString?)
    (shown.map (Text.truncate · previewBytes)).getD ""
  | _ => ""

end ToolCall

end Turnstile
