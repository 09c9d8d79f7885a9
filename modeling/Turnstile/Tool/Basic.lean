import Turnstile.Json.Reader
import Turnstile.Text.Blank
/-!
# Tools — what a model may call, a call, and its result

A definition names a tool and describes its input; a call asks for one
invocation; a result answers one call by its id.
-/

namespace Turnstile

/-- The schema of a tool that declares no input. -/
def defaultInputSchema : Json := .obj [("type", .str "object")]

/-- A tool as it is shown to a model. The name is the key of dispatch. -/
structure ToolDefinition where
  name : String
  description : String
  inputSchema : Json
  deriving Repr, Inhabited

/-- One invocation asked for by a model. -/
structure ToolCall where
  id : String
  name : String
  input : Json
  deriving Repr, Inhabited

/-- The outcome of one invocation, fed back to the model. -/
structure ToolResult where
  callId : String
  content : String
  isError : Bool
  deriving DecidableEq, Repr, Inhabited

namespace ToolDefinition

/-- A tool without declared input. -/
def plain (name description : String) : ToolDefinition := ⟨name, description, defaultInputSchema⟩

/-- Why a definition cannot be sent. -/
def invalid? (d : ToolDefinition) : Option String :=
  if Text.allBlank d.name then
    some "Invalid tool definition: tool name must not be empty"
  else if d.inputSchema.isObject then none
  else
    some ("Invalid tool definition: input schema of '" ++ d.name ++ "' must be a JSON object")

/-- The JSON form. -/
def toJson (d : ToolDefinition) : Json :=
  .ofFields [("name", .str d.name), ("description", .str d.description),
    ("input_schema", d.inputSchema)]

/-- Read the JSON form. -/
def reader : Reader ToolDefinition := fun source doc => do
  let fs ← Reader.record "struct ToolDefinition" ["name", "description", "input_schema"] source doc
  return {
    name := ← fs.require "name" Reader.string
    description := ← fs.require "description" Reader.string
    inputSchema := ← fs.getD "input_schema" Reader.json defaultInputSchema }

end ToolDefinition

namespace ToolCall

/-- A call; a `null` input stands for the empty object. -/
def make (id name : String) (input : Json) : ToolCall :=
  ⟨id, name, if input.isNull then Json.empty else input⟩

/-- A text argument. -/
def text? (c : ToolCall) (key : String) : Option String := (c.input.get? key).bind Json.asString?

/-- An integer argument. -/
def int? (c : ToolCall) (key : String) : Option Int := (c.input.get? key).bind Json.asInt64?

/-- The JSON form. -/
def toJson (c : ToolCall) : Json :=
  .ofFields [("id", .str c.id), ("name", .str c.name), ("input", c.input)]

/-- Read the JSON form. -/
def reader : Reader ToolCall := fun source doc => do
  let fs ← Reader.record "struct ToolCall" ["id", "name", "input"] source doc
  return {
    id := ← fs.require "id" Reader.string
    name := ← fs.require "name" Reader.string
    input := ← fs.require "input" Reader.json }

end ToolCall

namespace ToolResult

/-- The JSON form. -/
def toJson (r : ToolResult) : Json :=
  .ofFields [("tool_call_id", .str r.callId), ("content", .str r.content),
    ("is_error", .bool r.isError)]

/-- Read the JSON form. -/
def reader : Reader ToolResult := fun source doc => do
  let fs ← Reader.record "struct ToolResult" ["tool_call_id", "content", "is_error"] source doc
  return {
    callId := ← fs.require "tool_call_id" Reader.string
    content := ← fs.require "content" Reader.string
    isError := ← fs.getD "is_error" Reader.bool false }

end ToolResult

end Turnstile
