import Turnstile.Tool.Execution
/-!
# The notify tool

A message to the session a call belongs to.
-/

namespace Turnstile

/-- Why a message was not delivered. -/
inductive NotifyError where
  | noSession
  | delivery (text : String)
  deriving DecidableEq, Repr, Inhabited

namespace NotifyError

/-- The message. -/
def message : NotifyError → String
  | .noSession => "No session to notify"
  | .delivery text => "Delivery failed: " ++ text

end NotifyError

/-- What delivers messages to sessions. -/
abbrev Notifier := (session text : String) → Act NotifyError Unit

namespace NotifyTool

/-- Read the input: the message. -/
def reader : Reader String := fun source doc => do
  let fs ← Reader.eagerRecord "struct NotifyArgs" [("text", Reader.judged Reader.string)] source doc
  fs.require "text" Reader.string

/-- The definition shown to the model. -/
def definition : ToolDefinition where
  name := "notify"
  description := "Send a message to the user's current session."
  inputSchema := Tool.schema [("text", Tool.property "string" "Message to send")] ["text"]

/-- A message that was not delivered is a failed execution. -/
def failed (e : NotifyError) : ToolError := .execution e.message

/-- Send the message. -/
def execute (notifier : Notifier) (context : ToolContext) (input : Json) :
    Act ToolError String := do
  let text ← Tool.input reader input
  if Text.allBlank text then throw (.invalidInput "text is empty")
  match context.session with
  | none => throw (failed .noSession)
  | some session =>
    Act.orElse (notifier session text) failed
    return "Notification sent"

end NotifyTool

/-- Messages to the session. -/
def notifyTool (notifier : Notifier) : Tool :=
  ⟨NotifyTool.definition, fun context input _ _ => NotifyTool.execute notifier context input⟩

end Turnstile
