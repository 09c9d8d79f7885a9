import Turnstile.Chat.Event
import Turnstile.Text.Blank
/-!
# OpenAI — what the vendor sends

Readers for a whole completion and for the chunks of a stream.
-/

namespace Turnstile

namespace OpenAI

/-- Token counts, noughts where missing. -/
def usage : Reader Usage := fun source doc => do
  let fs ← Reader.record "struct Usage" ["prompt_tokens", "completion_tokens"] source doc
  return ⟨← fs.getD "prompt_tokens" Reader.nat64 0, ← fs.getD "completion_tokens" Reader.nat64 0⟩

/-- A whole call: id, name and argument text. -/
structure Call where
  id : String
  name : String
  arguments : String
  deriving DecidableEq, Repr, Inhabited

/-- The name and argument text of a call. -/
def function : Reader (String × String) := fun source doc => do
  let fs ← Reader.record "struct FunctionCall" ["name", "arguments"] source doc
  return (← fs.require "name" Reader.string, ← fs.getD "arguments" Reader.string "")

/-- Read a whole call. -/
def call : Reader Call := fun source doc => do
  let fs ← Reader.record "struct Call" ["id", "type", "function"] source doc
  let id ← fs.require "id" Reader.string
  discard (fs.getD "type" Reader.string "function")
  let (name, arguments) ← fs.require "function" function
  return ⟨id, name, arguments⟩

/-- The message of a choice. -/
structure Answer where
  content : Option String
  calls : List Call
  deriving Repr, Inhabited

/-- Read the message of a choice. -/
def answer : Reader Answer := fun source doc => do
  let fs ← Reader.record "struct Answer" ["content", "tool_calls"] source doc
  return ⟨← fs.get? "content" Reader.string, ← fs.getD "tool_calls" (Reader.list call) []⟩

/-- Read a choice. -/
def choice : Reader Answer := fun source doc => do
  let fs ← Reader.record "struct Choice" ["message"] source doc
  fs.require "message" answer

/-- A whole completion. -/
structure Completion where
  choices : List Answer
  usage : Option Usage
  deriving Repr, Inhabited

/-- Read a whole completion. -/
def completion : Reader Completion := fun source doc => do
  let fs ← Reader.record "struct Completion" ["choices", "usage"] source doc
  return ⟨← fs.getD "choices" (Reader.list choice) [], ← fs.get? "usage" usage⟩

/-! ## Chunks -/

/-- A piece of a call. -/
structure CallDelta where
  index : Nat
  id : Option String
  name : Option String
  arguments : Option String
  deriving DecidableEq, Repr, Inhabited

/-- Name and argument text of a piece. -/
def functionDelta : Reader (Option String × Option String) := fun source doc => do
  let fs ← Reader.record "struct FunctionDelta" ["name", "arguments"] source doc
  return (← fs.get? "name" Reader.string, ← fs.get? "arguments" Reader.string)

/-- Read a piece of a call. -/
def callDelta : Reader CallDelta := fun source doc => do
  let fs ← Reader.record "struct CallDelta" ["index", "id", "function"] source doc
  let index ← fs.getD "index" Reader.index 0
  let id ← fs.get? "id" Reader.string
  let function ← fs.get? "function" functionDelta
  return ⟨index, id, function.bind (·.1), function.bind (·.2)⟩

/-- A piece of a choice. -/
structure ChoiceDelta where
  index : Nat
  content : Option String
  calls : List CallDelta
  finishReason : Option String
  deriving Repr, Inhabited

/-- Text and call pieces. -/
def pieces : Reader (Option String × List CallDelta) := fun source doc => do
  let fs ← Reader.record "struct Delta" ["content", "tool_calls"] source doc
  return (← fs.get? "content" Reader.string, ← fs.getD "tool_calls" (Reader.list callDelta) [])

/-- Read a piece of a choice. -/
def choiceDelta : Reader ChoiceDelta := fun source doc => do
  let fs ← Reader.record "struct ChoiceDelta" ["index", "delta", "finish_reason"] source doc
  let index ← fs.getD "index" Reader.index 0
  let (content, calls) ← fs.getD "delta" pieces (none, [])
  return ⟨index, content, calls, ← fs.get? "finish_reason" Reader.string⟩

/-- One chunk of a stream; `error` is the text of an error payload. -/
structure Chunk where
  choices : List ChoiceDelta
  usage : Option Usage
  error : Option String
  deriving Repr, Inhabited

/-- The text of an error. -/
def apiError : Reader String := fun source doc => do
  let fs ← Reader.record "struct ApiError" ["message"] source doc
  fs.getD "message" Reader.string ""

/-- Read one chunk. -/
def chunk : Reader Chunk := fun source doc => do
  let fs ← Reader.record "struct Chunk" ["choices", "usage", "error"] source doc
  return ⟨← fs.getD "choices" (Reader.list choiceDelta) [], ← fs.get? "usage" usage,
    ← fs.get? "error" apiError⟩

/-- The payload of a line: the end mark or a chunk. -/
inductive Payload where
  | done
  | chunk (c : Chunk)
  deriving Repr, Inhabited

/-- Read a payload. -/
def Payload.ofString? (s : String) : Option Payload :=
  if Text.trim s = "[DONE]" then some .done
  else
    (Doc.ofString? s).bind fun doc => (OpenAI.chunk .text doc).toOption.map .chunk

/-- The completion of a body. -/
def Completion.ofBytes? (bytes : Bytes) : Option Completion :=
  (Doc.ofBytes? bytes).bind fun doc => (completion .text doc).toOption

end OpenAI

end Turnstile
