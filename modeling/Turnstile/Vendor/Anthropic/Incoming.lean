import Turnstile.Chat.Event
/-!
# Anthropic — what the vendor sends

Readers for the whole response and for the events of a stream. Kinds of
block, delta and event that are not known are read as such and skipped by
whoever handles them.
-/

namespace Turnstile

namespace Anthropic

/-- Token counts, noughts where missing. -/
def usage : Reader Usage := fun source doc => do
  let fs ← Reader.record "struct Usage" ["input_tokens", "output_tokens"] source doc
  return ⟨← fs.getD "input_tokens" Reader.nat64 0, ← fs.getD "output_tokens" Reader.nat64 0⟩

/-- A block of content. -/
inductive ContentBlock where
  | text (text : String)
  | toolUse (id name : String) (input : Json)
  | unknown
  deriving Repr, Inhabited

/-- Read a block of content. -/
def contentBlock : Reader ContentBlock := fun source doc => do
  let (name, source, doc) ← Reader.tagged "type" ["text", "tool_use"] source doc
  match name with
  | "text" =>
    let fs ← Reader.record "struct variant ContentBlock::Text" ["text"] source doc
    return .text (← fs.getD "text" Reader.string "")
  | "tool_use" =>
    let fs ← Reader.record "struct variant ContentBlock::ToolUse" ["id", "name", "input"] source doc
    return .toolUse (← fs.require "id" Reader.string) (← fs.require "name" Reader.string)
      (← fs.getD "input" Reader.json .null)
  | _ =>
    Reader.bare source doc
    return .unknown

/-- A whole response. -/
structure Response where
  content : List ContentBlock
  usage : Usage
  deriving Repr, Inhabited

/-- Read a whole response. -/
def response : Reader Response := fun source doc => do
  let fs ← Reader.record "struct Response" ["content", "usage"] source doc
  return ⟨← fs.getD "content" (Reader.list contentBlock) [], ← fs.getD "usage" usage .zero⟩

/-- A piece of a block. -/
inductive Delta where
  | text (text : String)
  | inputJson (fragment : String)
  | unknown
  deriving Repr, Inhabited

/-- Read a piece of a block. -/
def delta : Reader Delta := fun source doc => do
  let (name, source, doc) ← Reader.tagged "type" ["text_delta", "input_json_delta"] source doc
  match name with
  | "text_delta" =>
    let fs ← Reader.record "struct variant Delta::TextDelta" ["text"] source doc
    return .text (← fs.require "text" Reader.string)
  | "input_json_delta" =>
    let fs ← Reader.record "struct variant Delta::InputJsonDelta" ["partial_json"] source doc
    return .inputJson (← fs.require "partial_json" Reader.string)
  | _ =>
    Reader.bare source doc
    return .unknown

/-- One event of a stream. -/
inductive Event where
  | messageStart (usage : Usage)
  | blockStart (index : Nat) (block : ContentBlock)
  | blockDelta (index : Nat) (delta : Delta)
  | blockStop (index : Nat)
  | messageDelta (usage : Usage)
  | messageStop
  | ping
  | error (kind message : String)
  | unknown
  deriving Repr, Inhabited

/-- The usage inside the start of a message. -/
def startedMessage : Reader Usage := fun source doc => do
  let fs ← Reader.record "struct MessageStart" ["usage"] source doc
  fs.getD "usage" usage .zero

/-- The kind and text of an error. -/
def apiError : Reader (String × String) := fun source doc => do
  let fs ← Reader.record "struct ApiError" ["type", "message"] source doc
  return (← fs.getD "type" Reader.string "", ← fs.getD "message" Reader.string "")

/-- Names of the events in order. -/
def eventNames : List String :=
  ["message_start", "content_block_start", "content_block_delta", "content_block_stop",
    "message_delta", "message_stop", "ping", "error"]

/-- Read one event. -/
def event : Reader Event := fun source doc => do
  let (name, source, doc) ← Reader.tagged "type" eventNames source doc
  let fields (known : List String) := Reader.record "struct variant Event" known source doc
  match name with
  | "message_start" =>
    let fs ← fields ["message"]
    return .messageStart (← fs.require "message" startedMessage)
  | "content_block_start" =>
    let fs ← fields ["index", "content_block"]
    return .blockStart (← fs.require "index" Reader.index)
      (← fs.require "content_block" contentBlock)
  | "content_block_delta" =>
    let fs ← fields ["index", "delta"]
    return .blockDelta (← fs.require "index" Reader.index) (← fs.require "delta" delta)
  | "content_block_stop" =>
    let fs ← fields ["index"]
    return .blockStop (← fs.require "index" Reader.index)
  | "message_delta" =>
    let fs ← fields ["usage"]
    return .messageDelta (← fs.getD "usage" usage .zero)
  | "message_stop" =>
    Reader.bare source doc
    return .messageStop
  | "ping" =>
    Reader.bare source doc
    return .ping
  | "error" =>
    let fs ← fields ["error"]
    let (kind, message) ← fs.require "error" apiError
    return .error kind message
  | _ =>
    Reader.bare source doc
    return .unknown

/-- The event of a payload, if it is one. -/
def Event.ofString? (s : String) : Option Event :=
  (Doc.ofString? s).bind fun doc => (event .text doc).toOption

/-- The response of a body. -/
def Response.ofBytes? (bytes : Bytes) : Option Response :=
  (Doc.ofBytes? bytes).bind fun doc => (response .text doc).toOption

end Anthropic

end Turnstile
