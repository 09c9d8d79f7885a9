import Turnstile.Chat.Message
/-!
# Chat requests

What is asked of a vendor, independent of any vendor. System messages may
stand anywhere; their texts are gathered into one system prompt and the
rest is the conversation.
-/

namespace Turnstile

/-- A request for one turn. An empty model and a count of nought leave the
choice to the vendor's settings. -/
structure ChatRequest where
  model : String
  maxTokens : Nat
  /-- In single precision. -/
  temperature : Option Binary
  messages : List ChatMessage
  tools : List ToolDefinition
  deriving Repr, Inhabited

/-- A single-precision number in JSON: the shortest decimal that reads back
as the same single. An infinite one is `null`. -/
def Json.single (x : Binary) : Json :=
  if x.isFinite .binary32 then
    if x.magnitude = 0 then .num (.float x)
    else
      let d := Shortest.decimal .binary32 x.magnitude
      let magnitude :=
        if 0 ≤ d.exponent then
          BinaryFormat.binary64.ofRatio (d.digits * Nat.pow 10 d.exponent.toNat) 1
        else BinaryFormat.binary64.ofRatio d.digits (Nat.pow 10 (-d.exponent).toNat)
      .num (.float ⟨x.negative, magnitude⟩)
  else .null

namespace ChatRequest

/-- The model to ask, `default` where none is named. -/
def modelOr (r : ChatRequest) (default : String) : String :=
  if Text.allBlank r.model then default else r.model

/-- How many tokens to ask for, `default` where it is left open. -/
def maxTokensOr (r : ChatRequest) (default : Nat) : Nat :=
  if r.maxTokens = 0 then default else r.maxTokens

/-- The non-empty system texts, a blank line between neighbours. -/
def systemPrompt (r : ChatRequest) : Option String :=
  match (r.messages.filter fun m => m.role == .system && !m.content.isEmpty).map (·.content) with
  | [] => none
  | parts => some (Text.join "\n\n" parts)

/-- The messages that are not the system's. -/
def conversation (r : ChatRequest) : List ChatMessage := r.messages.filter (·.role != .system)

/-- The name under which a call was made: that of the nearest message
before `index` that holds a call with this id. Ids may repeat. -/
def toolNameForCall (r : ChatRequest) (index : Nat) (callId : String) : Option String :=
  (((r.messages.take index).reverse.flatMap (·.toolCalls)).find? (·.id == callId)).map (·.name)

/-- Why no vendor would accept a request. -/
def rejected? (r : ChatRequest) : Option String :=
  if r.conversation.isEmpty then some "request has no conversational messages"
  else
    match r.messages.findSome? ChatMessage.invalid? with
    | some why => some why
    | none => r.tools.findSome? ToolDefinition.invalid?

/-- The JSON form; what is absent or empty is left out where it may be. -/
def toJson (r : ChatRequest) : Json :=
  .ofFields ([("model", .str r.model), ("max_tokens", .nat r.maxTokens)] ++
    (match r.temperature with
     | some t => [("temperature", .single t)]
     | none => []) ++
    [("messages", .arr (r.messages.map ChatMessage.toJson))] ++
    (if r.tools.isEmpty then [] else [("tools", .arr (r.tools.map ToolDefinition.toJson))]))

/-- Read the JSON form. -/
def reader : Reader ChatRequest := fun source doc => do
  let fs ← Reader.record "struct ChatRequest"
    ["model", "max_tokens", "temperature", "messages", "tools"] source doc
  return {
    model := ← fs.getD "model" Reader.string ""
    maxTokens := ← fs.getD "max_tokens" Reader.nat32 0
    temperature := ← fs.get? "temperature" Reader.single
    messages := ← fs.require "messages" (Reader.list ChatMessage.reader)
    tools := ← fs.getD "tools" (Reader.list ToolDefinition.reader) [] }

/-- The request a JSON value holds. -/
def ofJson? (j : Json) : Except Mismatch ChatRequest := reader .value (.ofJson j)

/-- The request a JSON text holds. -/
def ofString? (s : String) : Except Mismatch ChatRequest :=
  match Doc.ofString? s with
  | some doc => reader .text doc
  | none => .error .unusable

end ChatRequest

end Turnstile
