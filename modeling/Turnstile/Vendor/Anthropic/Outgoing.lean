import Turnstile.Chat.Request
/-!
# Anthropic — the request body

Each message becomes a list of blocks: its tool results, its text if there
is any, its tool calls. A message without any block is not sent.
-/

namespace Turnstile

namespace Anthropic

/-- One block of a message. -/
inductive Block where
  | text (text : String)
  | toolUse (id name : String) (input : Json)
  | toolResult (callId content : String) (isError : Bool)
  deriving Repr, Inhabited

namespace Block

/-- The JSON form. -/
def toJson : Block → Json
  | .text s => .ofFields [("type", .str "text"), ("text", .str s)]
  | .toolUse id name input =>
    .ofFields [("type", .str "tool_use"), ("id", .str id), ("name", .str name), ("input", input)]
  | .toolResult callId content isError =>
    .ofFields [("type", .str "tool_result"), ("tool_use_id", .str callId),
      ("content", .str content), ("is_error", .bool isError)]

/-- The blocks of a message. -/
def ofMessage (m : ChatMessage) : List Block :=
  m.toolResults.map (fun r => .toolResult r.callId r.content r.isError) ++
  (if m.content.isEmpty then [] else [.text m.content]) ++
  m.toolCalls.map (fun c => .toolUse c.id c.name c.input)

end Block

/-- A message as it is sent. -/
structure Turn where
  role : Role
  blocks : List Block
  deriving Repr, Inhabited

namespace Turn

/-- A message with something to send. -/
def ofMessage? (m : ChatMessage) : Option Turn :=
  match Block.ofMessage m with
  | [] => none
  | blocks => some ⟨m.role, blocks⟩

/-- The JSON form. -/
def toJson (t : Turn) : Json :=
  .ofFields [("role", .str t.role.name), ("content", .arr (t.blocks.map Block.toJson))]

end Turn

/-- A request body. -/
structure Body where
  model : String
  maxTokens : Nat
  system : Option String
  turns : List Turn
  tools : List ToolDefinition
  temperature : Option Binary
  stream : Bool
  deriving Repr, Inhabited

namespace Body

/-- The body that asks `model` for a request. -/
def ofRequest (r : ChatRequest) (model : String) (maxTokens : Nat) (stream : Bool) : Body where
  model := model
  maxTokens := maxTokens
  system := r.systemPrompt
  turns := r.conversation.filterMap Turn.ofMessage?
  tools := r.tools
  temperature := r.temperature
  stream := stream

/-- The JSON form. -/
def toJson (b : Body) : Json :=
  .ofFields ([("model", .str b.model), ("max_tokens", .nat b.maxTokens),
      ("messages", .arr (b.turns.map Turn.toJson)), ("stream", .bool b.stream)] ++
    (b.system.toList.map fun s => ("system", .str s)) ++
    (if b.tools.isEmpty then [] else [("tools", .arr (b.tools.map ToolDefinition.toJson))]) ++
    (b.temperature.toList.map fun t => ("temperature", .single t)))

end Body

end Anthropic

end Turnstile
