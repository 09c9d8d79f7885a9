import Turnstile.Chat.Event
/-!
# Gemini — what the vendor sends

One reader serves the whole response and each chunk of a stream.
-/

namespace Turnstile

namespace Gemini

/-- Token counts, noughts where missing. -/
def usage : Reader Usage := fun source doc => do
  let fs ← Reader.record "struct UsageMetadata" ["promptTokenCount", "candidatesTokenCount"]
    source doc
  return ⟨← fs.getD "promptTokenCount" Reader.nat64 0,
    ← fs.getD "candidatesTokenCount" Reader.nat64 0⟩

/-- A call of a function. -/
structure FunctionCall where
  id : Option String
  name : String
  args : Json
  deriving Repr, Inhabited

/-- Read a call of a function. -/
def functionCall : Reader FunctionCall := fun source doc => do
  let fs ← Reader.record "struct FunctionCall" ["id", "name", "args"] source doc
  return ⟨← fs.get? "id" Reader.string, ← fs.require "name" Reader.string,
    ← fs.getD "args" Reader.json .null⟩

/-- One part of a candidate. -/
inductive ResponsePart where
  | call (c : FunctionCall)
  | text (text : String) (thought : Bool)
  | other
  deriving Repr, Inhabited

/-- The fields of a part, which is not read by position. -/
def partFields (known : List String) : Reader Reader.Fields := fun source doc =>
  match doc with
  | .obj _ => Reader.record "a part" known source doc
  | doc => Reader.other "a part" doc

/-- Read a part: the first of the forms that fits, and any other value. -/
def responsePart : Reader ResponsePart := fun source doc => do
  let within ← Reader.judge source doc
  let asCall : Except Mismatch ResponsePart := do
    let fs ← partFields ["functionCall"] within doc
    return .call (← fs.require "functionCall" functionCall)
  let asText : Except Mismatch ResponsePart := do
    let fs ← partFields ["text", "thought"] within doc
    return .text (← fs.require "text" Reader.string) (← fs.getD "thought" Reader.bool false)
  match asCall with
  | .ok part => return part
  | .error _ =>
    match asText with
    | .ok part => return part
    | .error _ => return .other

/-- A candidate: its index and its parts, if it has content. -/
structure Candidate where
  index : Nat
  parts : Option (List ResponsePart)
  deriving Repr, Inhabited

/-- Read the parts of a candidate. -/
def content : Reader (List ResponsePart) := fun source doc => do
  let fs ← Reader.record "struct CandidateContent" ["parts"] source doc
  fs.getD "parts" (Reader.list responsePart) []

/-- Read a candidate. -/
def candidate : Reader Candidate := fun source doc => do
  let fs ← Reader.record "struct Candidate" ["index", "content"] source doc
  return ⟨← fs.getD "index" Reader.index 0, ← fs.get? "content" content⟩

/-- A response or a chunk; `error` is the status and text of an error
payload. -/
structure Response where
  candidates : List Candidate
  usage : Option Usage
  error : Option (String × String)
  deriving Repr, Inhabited

/-- The status and text of an error. -/
def apiError : Reader (String × String) := fun source doc => do
  let fs ← Reader.record "struct ApiError" ["status", "message"] source doc
  return (← fs.getD "status" Reader.string "", ← fs.getD "message" Reader.string "")

/-- Read a response or a chunk. -/
def response : Reader Response := fun source doc => do
  let fs ← Reader.record "struct Response" ["candidates", "usageMetadata", "error"] source doc
  return ⟨← fs.getD "candidates" (Reader.list candidate) [], ← fs.get? "usageMetadata" usage,
    ← fs.get? "error" apiError⟩

/-- The chunk of a payload. -/
def Response.ofString? (s : String) : Option Response :=
  (Doc.ofString? s).bind fun doc => (response .text doc).toOption

/-- The response of a body. -/
def Response.ofBytes? (bytes : Bytes) : Option Response :=
  (Doc.ofBytes? bytes).bind fun doc => (response .text doc).toOption

end Gemini

end Turnstile
