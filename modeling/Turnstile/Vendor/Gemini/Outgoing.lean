import Turnstile.Chat.Request
/-!
# Gemini — the request body

Results are matched to calls by the name of the function, so each result
carries the name its call was made under. Ids that stand in for missing
ones are not sent back.
-/

namespace Turnstile

namespace Gemini

/-- How an id begins that stands in for a missing one. -/
def standInLead : String := "gemini_call_"

/-- The id to send back, if the vendor gave it. -/
def vendorId? (id : String) : Option String :=
  if Text.startsWith id standInLead then none else some id

/-- One part of a message. -/
inductive Part where
  | text (text : String)
  | functionCall (id : Option String) (name : String) (args : Json)
  | functionResponse (id : Option String) (name : String) (isError : Bool) (content : String)
  deriving Repr, Inhabited

namespace Part

/-- An id field, if there is an id. -/
def idField (id : Option String) : List (String × Json) := id.toList.map fun i => ("id", .str i)

/-- The JSON form. -/
def toJson : Part → Json
  | .text s => .ofFields [("text", .str s)]
  | .functionCall id name args =>
    .ofFields [("functionCall", .ofFields (idField id ++ [("name", .str name), ("args", args)]))]
  | .functionResponse id name isError content =>
    .ofFields [("functionResponse", .ofFields (idField id ++ [("name", .str name),
      ("response", .ofFields [(if isError then "error" else "output", .str content)])]))]

/-- The parts of the message at `index`: results, text, calls. -/
def ofMessage (r : ChatRequest) (index : Nat) (m : ChatMessage) : List Part :=
  m.toolResults.map (fun result =>
    .functionResponse (vendorId? result.callId)
      ((r.toolNameForCall index result.callId).getD result.callId) result.isError
      result.content) ++
  (if m.content.isEmpty then [] else [.text m.content]) ++
  m.toolCalls.map (fun c => .functionCall (vendorId? c.id) c.name c.input)

end Part

/-- A message as it is sent. -/
structure Turn where
  role : Role
  parts : List Part
  deriving Repr, Inhabited

namespace Turn

/-- What the vendor calls a role of the conversation. -/
def roleName : Role → String
  | .assistant => "model"
  | _ => "user"

/-- A message of the conversation with something to send. -/
def ofMessage? (r : ChatRequest) (index : Nat) (m : ChatMessage) : Option Turn :=
  if m.role == .system then none
  else
    match Part.ofMessage r index m with
    | [] => none
    | parts => some ⟨m.role, parts⟩

/-- The JSON form. -/
def toJson (t : Turn) : Json :=
  .ofFields [("role", .str (roleName t.role)), ("parts", .arr (t.parts.map Part.toJson))]

end Turn

/-- A request body. -/
structure Body where
  turns : List Turn
  system : Option String
  tools : List ToolDefinition
  maxTokens : Nat
  temperature : Option Binary
  deriving Repr, Inhabited

namespace Body

/-- The body for a request. -/
def ofRequest (r : ChatRequest) (maxTokens : Nat) : Body where
  turns := r.messages.zipIdx.filterMap fun (m, index) => Turn.ofMessage? r index m
  system := r.systemPrompt
  tools := r.tools
  maxTokens := maxTokens
  temperature := r.temperature

/-- A tool as it is sent. -/
def toolToJson (d : ToolDefinition) : Json :=
  .ofFields [("name", .str d.name), ("description", .str d.description),
    ("parameters", d.inputSchema)]

/-- The JSON form. -/
def toJson (b : Body) : Json :=
  .ofFields ([("contents", .arr (b.turns.map Turn.toJson)),
      ("generationConfig", .ofFields ([("maxOutputTokens", .nat b.maxTokens)] ++
        (b.temperature.toList.map fun t => ("temperature", .single t))))] ++
    (b.system.toList.map fun s =>
      ("systemInstruction", .ofFields [("parts", .arr [(Part.text s).toJson])])) ++
    (if b.tools.isEmpty then []
     else [("tools", .arr [.ofFields [("functionDeclarations",
      .arr (b.tools.map toolToJson))]])]))

end Body

end Gemini

end Turnstile
