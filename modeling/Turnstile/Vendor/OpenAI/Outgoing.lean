import Turnstile.Chat.Request
/-!
# OpenAI — the request body

The system prompt comes first. Each tool result is a message of its own,
ahead of the text and calls of the message that held it; the result of a
failed call says so in its text. Arguments travel as JSON text.
-/

namespace Turnstile

namespace OpenAI

/-- One message as it is sent. -/
inductive Turn where
  | system (text : String)
  | tool (callId content : String)
  | plain (role : Role) (text : Option String) (calls : List ToolCall)
  deriving Repr, Inhabited

namespace Turn

/-- The entry of a call. -/
def callToJson (c : ToolCall) : Json :=
  .ofFields [("id", .str c.id), ("type", .str "function"),
    ("function", .ofFields [("name", .str c.name), ("arguments", .str c.input.compact)])]

/-- The JSON form. -/
def toJson : Turn → Json
  | .system s => .ofFields [("role", .str "system"), ("content", .str s)]
  | .tool callId content =>
    .ofFields [("role", .str "tool"), ("content", .str content), ("tool_call_id", .str callId)]
  | .plain role s calls =>
    .ofFields ([("role", .str role.name), ("content", (s.map .str).getD .null)] ++
      (if calls.isEmpty then [] else [("tool_calls", .arr (calls.map callToJson))]))

/-- The text of a result. -/
def resultText (r : ToolResult) : String :=
  if r.isError then "Error: " ++ r.content else r.content

/-- What is sent for a message of the conversation. -/
def ofMessage (m : ChatMessage) : List Turn :=
  m.toolResults.map (fun r => .tool r.callId (resultText r)) ++
  (if m.content.isEmpty && m.toolCalls.isEmpty then []
   else
    [.plain m.role (if m.content.isEmpty then none else some m.content) m.toolCalls])

end Turn

/-- A request body. -/
structure Body where
  model : String
  maxTokens : Nat
  turns : List Turn
  tools : List ToolDefinition
  temperature : Option Binary
  stream : Bool
  deriving Repr, Inhabited

namespace Body

/-- The body that asks `model` for a request. -/
def ofRequest (r : ChatRequest) (model : String) (maxTokens : Nat) (stream : Bool) : Body where
  model := model
  maxTokens := maxTokens
  turns := r.systemPrompt.toList.map .system ++ r.conversation.flatMap Turn.ofMessage
  tools := r.tools
  temperature := r.temperature
  stream := stream

/-- A tool as it is sent. -/
def toolToJson (d : ToolDefinition) : Json :=
  .ofFields [("type", .str "function"),
    ("function", .ofFields [("name", .str d.name), ("description", .str d.description),
      ("parameters", d.inputSchema)])]

/-- The JSON form; a stream is asked to report usage. -/
def toJson (b : Body) : Json :=
  .ofFields ([("model", .str b.model), ("max_tokens", .nat b.maxTokens),
      ("messages", .arr (b.turns.map Turn.toJson)), ("stream", .bool b.stream)] ++
    (if b.tools.isEmpty then [] else [("tools", .arr (b.tools.map toolToJson))]) ++
    (b.temperature.toList.map fun t => ("temperature", .single t)) ++
    (if b.stream then [("stream_options", .ofFields [("include_usage", .bool true)])] else []))

end Body

end OpenAI

end Turnstile
