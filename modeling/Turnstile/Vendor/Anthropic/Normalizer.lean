import Turnstile.Vendor.Anthropic.Incoming
import Turnstile.Stream.Pump
import Turnstile.Tool.Assembly
/-!
# Anthropic — events of a response

A call is opened by the start of a `tool_use` block, filled by its deltas
and emitted when the block stops; calls still open are emitted at the end
of the message. The same events come from a response read whole.
-/

namespace Turnstile

namespace Anthropic

/-- What a stream has told so far. -/
structure Progress where
  calls : Assembly
  usage : Usage
  finished : Bool
  deriving Repr, Inhabited

namespace Progress

/-- Nothing told. -/
def start : Progress := ⟨.empty, .zero, false⟩

/-- End the stream: the open calls, then the usage. -/
def finish (p : Progress) : Progress × List ChatEvent :=
  let (calls, ready) := p.calls.finishAll
  ({ p with calls, finished := true }, ready.map .toolCall ++ [.done p.usage])

/-- A text, if there is any. -/
def tokens (text : String) : List ChatEvent := if text.isEmpty then [] else [.token text]

/-- Take in one event. -/
def handle (p : Progress) : Event → Progress × List ChatEvent
  | .messageStart usage | .messageDelta usage => ({ p with usage := p.usage.merge usage }, [])
  | .blockStart index (.toolUse id name _) =>
    ({ p with calls := p.calls.start index id name }, [])
  | .blockStart _ (.text text) => (p, tokens text)
  | .blockStart _ .unknown => (p, [])
  | .blockDelta _ (.text text) => (p, tokens text)
  | .blockDelta index (.inputJson fragment) =>
    ({ p with calls := p.calls.append index fragment }, [])
  | .blockDelta _ .unknown => (p, [])
  | .blockStop index =>
    let (calls, call) := p.calls.finish index
    ({ p with calls }, call.toList.map .toolCall)
  | .messageStop => p.finish
  | .error kind message =>
    ({ p with finished := true }, [.error (.vendor (kind ++ ": " ++ message))])
  | .ping | .unknown => (p, [])

/-- Take in one line. -/
def onLine (p : Progress) (line : String) : Progress × List ChatEvent :=
  if p.finished then (p, [])
  else
    match (EventLine.data? line).bind Event.ofString? with
    | some e => p.handle e
    | none => (p, [])

/-- The end of the body. -/
def onEnd (p : Progress) : List ChatEvent := if p.finished then [] else p.finish.2

end Progress

/-- The normalizer of Anthropic streams. -/
def normalizer : Normalizer := ⟨Progress, .start, Progress.onLine, Progress.onEnd⟩

/-- The events of one block. -/
def ContentBlock.events : ContentBlock → List ChatEvent
  | .text s => Progress.tokens s
  | .toolUse id name input => [.toolCall (.make id name input)]
  | .unknown => []

/-- The events of a response. -/
def Response.events (r : Response) : List ChatEvent :=
  r.content.flatMap ContentBlock.events ++ [.done r.usage]

/-- The events of a response read whole. -/
def decodeFull (body : Bytes) : Except StreamError (List ChatEvent) :=
  match Response.ofBytes? body with
  | some r => .ok r.events
  | none => .error (.decode "malformed response")

end Anthropic

end Turnstile
