import Turnstile.Vendor.OpenAI.Incoming
import Turnstile.Stream.Pump
import Turnstile.Tool.Assembly
/-!
# OpenAI — events of a completion

Pieces of calls are gathered by index. Calls are emitted when their choice
gives a reason to finish, and those left at the end. Only the first choice
counts. Usage may come after the last choice, so the stream ends with the
end mark or the body.
-/

namespace Turnstile

namespace OpenAI

/-- What a stream has told so far. -/
structure Progress where
  calls : Assembly
  usage : Usage
  finished : Bool
  deriving Repr, Inhabited

namespace Progress

/-- Nothing told. -/
def start : Progress := ⟨.empty, .zero, false⟩

/-- Emit the open calls. -/
def flush (p : Progress) : Progress × List ChatEvent :=
  let (calls, ready) := p.calls.finishAll
  ({ p with calls }, ready.map .toolCall)

/-- End the stream: the open calls, then the usage. -/
def finish (p : Progress) : Progress × List ChatEvent :=
  let (p, events) := p.flush
  ({ p with finished := true }, events ++ [.done p.usage])

/-- A text, if there is any. -/
def tokens : Option String → List ChatEvent
  | some s => if s.isEmpty then [] else [.token s]
  | none => []

/-- Add a piece of a call. -/
def addCall (a : Assembly) (d : CallDelta) : Assembly :=
  let a := a.identify d.index d.id d.name
  match d.arguments with
  | some fragment => a.append d.index fragment
  | none => a

/-- Take in a piece of a choice. -/
def handleChoice (p : Progress) (c : ChoiceDelta) : Progress × List ChatEvent :=
  if c.index ≠ 0 then (p, [])
  else
    let p := { p with calls := c.calls.foldl addCall p.calls }
    if c.finishReason.isSome then
      let (p, events) := p.flush
      (p, tokens c.content ++ events)
    else (p, tokens c.content)

/-- Take in the pieces of choices in turn. -/
def handleChoices (p : Progress) : List ChoiceDelta → Progress × List ChatEvent
  | [] => (p, [])
  | c :: cs =>
    let (p, events) := p.handleChoice c
    let (p, rest) := p.handleChoices cs
    (p, events ++ rest)

/-- Take in a chunk. An error payload ends the stream. -/
def handle (p : Progress) (c : Chunk) : Progress × List ChatEvent :=
  match c.error with
  | some message => ({ p with finished := true }, [.error (.vendor message)])
  | none => { p with usage := (c.usage.map p.usage.merge).getD p.usage }.handleChoices c.choices

/-- Take in one line. -/
def onLine (p : Progress) (line : String) : Progress × List ChatEvent :=
  if p.finished then (p, [])
  else
    match (EventLine.data? line).bind Payload.ofString? with
    | some .done => p.finish
    | some (.chunk c) => p.handle c
    | none => (p, [])

/-- The end of the body. -/
def onEnd (p : Progress) : List ChatEvent := if p.finished then [] else p.finish.2

end Progress

/-- The normalizer of OpenAI streams. -/
def normalizer : Normalizer := ⟨Progress, .start, Progress.onLine, Progress.onEnd⟩

/-- A whole call as it is emitted. -/
def Call.toToolCall (c : Call) : ToolCall := .make c.id c.name (parseArguments c.arguments)

/-- The events of a completion: its first choice, then the usage. -/
def Completion.events (c : Completion) : List ChatEvent :=
  (match c.choices with
   | [] => []
   | a :: _ => Progress.tokens a.content ++ a.calls.map fun c => .toolCall c.toToolCall) ++
  [.done (c.usage.getD .zero)]

/-- The events of a completion read whole. -/
def decodeFull (body : Bytes) : Except StreamError (List ChatEvent) :=
  match Completion.ofBytes? body with
  | some c => .ok c.events
  | none => .error (.decode "malformed completion")

end OpenAI

end Turnstile
