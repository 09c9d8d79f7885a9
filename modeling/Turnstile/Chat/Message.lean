import Turnstile.Tool.Basic
/-!
# Messages of a conversation

A message has a role and a text. An assistant message may carry the calls
the model asked for, a user message the results that answer them; no
message carries both.
-/

namespace Turnstile

/-- Who speaks. -/
inductive Role where
  | system
  | user
  | assistant
  deriving DecidableEq, Repr, Inhabited

namespace Role

/-- The name of a role. -/
def name : Role → String
  | .system => "system"
  | .user => "user"
  | .assistant => "assistant"

/-- Every role. -/
def all : List Role := [.system, .user, .assistant]

/-- Read a role by name; an object of one field, named for the role and
holding `null`, is read too. -/
def reader : Reader Role := fun source doc =>
  let named (s : String) : Except Mismatch Role :=
    match all.find? (·.name == s) with
    | some role => .ok role
    | none => .error (.variant s (all.map name))
  match doc with
  | .str (some s) => named s
  | .obj [(some key, .null)] => do
    discard source.inside
    named key
  | doc => Reader.other "string or map" doc

end Role

/-- A message of a conversation. -/
structure ChatMessage where
  role : Role
  content : String
  toolCalls : List ToolCall
  toolResults : List ToolResult
  deriving Repr, Inhabited

namespace ChatMessage

/-- A message of text alone. -/
def plain (role : Role) (content : String) : ChatMessage := ⟨role, content, [], []⟩

/-- An assistant turn that asked for calls. -/
def withToolCalls (content : String) (calls : List ToolCall) : ChatMessage :=
  ⟨.assistant, content, calls, []⟩

/-- A user turn that answers calls. -/
def answering (results : List ToolResult) : ChatMessage := ⟨.user, "", [], results⟩

/-- Why a message breaks the rule on roles and payloads. -/
def invalid? (m : ChatMessage) : Option String :=
  let hasCalls := !m.toolCalls.isEmpty
  let hasResults := !m.toolResults.isEmpty
  if hasCalls && hasResults then
    some "Invalid message: a message cannot carry both tool calls and tool results"
  else if hasCalls && m.role != .assistant then
    some ("Invalid message: tool calls must be authored by the assistant, not " ++ m.role.name)
  else if hasResults && m.role != .user then
    some ("Invalid message: tool results must be authored by the user, not " ++ m.role.name)
  else none

/-- The JSON form; empty lists are left out. -/
def toJson (m : ChatMessage) : Json :=
  .ofFields ([("role", .str m.role.name), ("content", .str m.content)] ++
    (if m.toolCalls.isEmpty then [] else [("tool_calls", .arr (m.toolCalls.map ToolCall.toJson))]) ++
    (if m.toolResults.isEmpty then []
     else [("tool_results", .arr (m.toolResults.map ToolResult.toJson))]))

/-- Read the JSON form. -/
def reader : Reader ChatMessage := fun source doc => do
  let fs ← Reader.record "struct ChatMessage" ["role", "content", "tool_calls", "tool_results"]
    source doc
  return {
    role := ← fs.require "role" Role.reader
    content := ← fs.getD "content" Reader.string ""
    toolCalls := ← fs.getD "tool_calls" (Reader.list ToolCall.reader) []
    toolResults := ← fs.getD "tool_results" (Reader.list ToolResult.reader) [] }

end ChatMessage

end Turnstile
