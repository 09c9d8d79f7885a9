import Turnstile.Vendor.Gemini.Incoming
import Turnstile.Vendor.Gemini.Outgoing
import Turnstile.Stream.Pump
/-!
# Gemini — events of a response

Parts come whole. A call without an id gets one that counts the calls of
the stream, those with ids included. There is no end mark: the stream ends
with the body.
-/

namespace Turnstile

namespace Gemini

/-- What a stream has told so far. -/
structure Progress where
  usage : Usage
  /-- Calls seen. -/
  calls : Nat
  finished : Bool
  deriving DecidableEq, Repr, Inhabited

namespace Progress

/-- Nothing told. -/
def start : Progress := ⟨.zero, 0, false⟩

/-- The id of a call: the vendor's, or one that stands in for it. -/
def callId (p : Progress) : Option String → String
  | some id => if id.isEmpty then standInLead ++ toString p.calls else id
  | none => standInLead ++ toString p.calls

/-- Take in one part. -/
def handlePart (p : Progress) : ResponsePart → Progress × List ChatEvent
  | .text s thought => (p, if thought || s.isEmpty then [] else [.token s])
  | .call c =>
    ({ p with calls := p.calls + 1 }, [.toolCall (.make (p.callId c.id) c.name c.args)])
  | .other => (p, [])

/-- Take in parts in turn. -/
def handleParts (p : Progress) : List ResponsePart → Progress × List ChatEvent
  | [] => (p, [])
  | part :: parts =>
    let (p, events) := p.handlePart part
    let (p, rest) := p.handleParts parts
    (p, events ++ rest)

/-- The parts of the first candidates of a response. -/
def partsOf (r : Response) : List ResponsePart :=
  (r.candidates.filter (·.index == 0)).flatMap fun c => c.parts.getD []

/-- Take in a response or a chunk. An error payload ends the stream. -/
def handle (p : Progress) (r : Response) : Progress × List ChatEvent :=
  match r.error with
  | some (status, message) =>
    ({ p with finished := true }, [.error (.vendor (status ++ ": " ++ message))])
  | none => { p with usage := (r.usage.map p.usage.merge).getD p.usage }.handleParts (partsOf r)

/-- Take in one line. -/
def onLine (p : Progress) (line : String) : Progress × List ChatEvent :=
  if p.finished then (p, [])
  else
    match (EventLine.data? line).bind Response.ofString? with
    | some r => p.handle r
    | none => (p, [])

/-- The end of the body. -/
def onEnd (p : Progress) : List ChatEvent := if p.finished then [] else [.done p.usage]

end Progress

/-- The normalizer of Gemini streams. -/
def normalizer : Normalizer := ⟨Progress, .start, Progress.onLine, Progress.onEnd⟩

/-- The events of a response. -/
def Response.events (r : Response) : List ChatEvent :=
  let (p, events) := Progress.start.handle r
  events ++ p.onEnd

/-- The events of a response read whole. -/
def decodeFull (body : Bytes) : Except StreamError (List ChatEvent) :=
  match Response.ofBytes? body with
  | some r => .ok r.events
  | none => .error (.decode "malformed response")

end Gemini

end Turnstile
