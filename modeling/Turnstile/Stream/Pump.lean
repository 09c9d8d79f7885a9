import Turnstile.Stream.Channel
import Turnstile.Stream.Lines
/-!
# The pump — from a response body to events

The body arrives in reads. Every completed line goes to a normalizer and
what it answers goes to the channel, until the body ends, a read fails, a
terminal event is sent, the consumer leaves or the run is cancelled.
Cancellation is looked for before every read and before every line.
-/

namespace Turnstile

/-- How a vendor's lines become events. -/
structure Normalizer where
  State : Type
  start : State
  /-- One line, without its end. -/
  onLine : State → String → State × List ChatEvent
  /-- The body has ended. -/
  onEnd : State → List ChatEvent

namespace Normalizer

/-- The events of lines fed in turn, line by line, and the state reached. -/
def feed (n : Normalizer) (s : n.State) : List String → n.State × List (List ChatEvent)
  | [] => (s, [])
  | line :: lines =>
    let (s, events) := n.onLine s line
    let (s, rest) := n.feed s lines
    (s, events :: rest)

/-- Lines fed in two runs are fed as one. -/
theorem feed_append (n : Normalizer) (s : n.State) (lines more : List String) :
    n.feed s (lines ++ more) =
      ((n.feed (n.feed s lines).1 more).1,
        (n.feed s lines).2 ++ (n.feed (n.feed s lines).1 more).2) := by
  induction lines generalizing s with
  | nil => rfl
  | cons line lines ih => simp only [List.cons_append, feed, ih]

/-- The events of lines and of the end after them, from any state. -/
def runFrom (n : Normalizer) (s : n.State) (lines : List String) : List ChatEvent :=
  (n.feed s lines).2.flatten ++ n.onEnd (n.feed s lines).1

/-- What was fed first is answered first. -/
theorem runFrom_append (n : Normalizer) (s : n.State) (lines more : List String) :
    n.runFrom s (lines ++ more) =
      (n.feed s lines).2.flatten ++ n.runFrom (n.feed s lines).1 more := by
  rw [runFrom, feed_append, List.flatten_append, List.append_assoc]
  rfl

/-- The events of a whole list of lines and of the end after them. -/
def run (n : Normalizer) (lines : List String) : List ChatEvent := n.runFrom n.start lines

end Normalizer

/-- One read of a body. -/
inductive BodyRead where
  | chunk (bytes : Bytes)
  | failure (text : String)
  /-- Nothing more arrives; only cancellation ends the wait. -/
  | silence
  deriving Repr, Inhabited

/-- A body as the reads it gives; after the last one it has ended. -/
abbrev Body := List BodyRead

/-- When cancellation is seen: at the look of this number and every later
one, or never. -/
abbrev CancelAt := Option Nat

namespace Pump

/-- A pump at work. -/
structure Run (n : Normalizer) where
  state : n.State
  buffer : LineBuffer
  channel : Channel
  /-- How often cancellation was looked for. -/
  looks : Nat

/-- Nothing read yet. -/
def Run.start (n : Normalizer) (channel : Channel) : Run n :=
  ⟨n.start, .empty, channel, 0⟩

/-- Whether the next look sees cancellation. -/
def seesCancel (cancelAt : CancelAt) (looks : Nat) : Bool :=
  match cancelAt with
  | some k => k ≤ looks
  | none => false

/-- Send a failure as the last event. -/
def fail (c : Channel) (cause : StreamError) : Channel := (c.emit (.error cause)).2

/-- Send the last events, and make sure of a terminal one. -/
def conclude (c : Channel) (events : List ChatEvent) : Channel :=
  match c.emitAll events with
  | (false, channel) => channel
  | (true, channel) => if channel.isClosed then channel else (channel.emit (.done .zero)).2

/-- Feed lines; `.error` is a pump that has stopped. -/
def feedLines {n : Normalizer} (cancelAt : CancelAt) (r : Run n) :
    List String → Except Channel (Run n)
  | [] => .ok r
  | line :: lines =>
    if seesCancel cancelAt r.looks then .error (fail r.channel .cancelled)
    else
      let (state, events) := n.onLine r.state line
      match r.channel.emitAll events with
      | (true, channel) => feedLines cancelAt { r with state, channel, looks := r.looks + 1 } lines
      | (false, channel) => .error channel

/-- The body has ended: feed what is left of a line, end the normalizer,
and make sure of a terminal event. -/
def finish {n : Normalizer} (cancelAt : CancelAt) (r : Run n) : Channel :=
  match feedLines cancelAt r r.buffer.finish.2.toList with
  | .error channel => channel
  | .ok r => conclude r.channel (n.onEnd r.state)

/-- Read the body to its end. -/
def reads {n : Normalizer} (cancelAt : CancelAt) (r : Run n) : Body → Channel
  | [] =>
    if seesCancel cancelAt r.looks then fail r.channel .cancelled
    else finish cancelAt { r with looks := r.looks + 1 }
  | read :: body =>
    if seesCancel cancelAt r.looks then fail r.channel .cancelled
    else
      match read with
      | .silence => fail r.channel .cancelled
      | .failure text => fail r.channel (.transport text)
      | .chunk bytes =>
        let (buffer, lines) := r.buffer.push bytes
        match feedLines cancelAt { r with buffer, looks := r.looks + 1 } lines with
        | .error channel => channel
        | .ok r => reads cancelAt r body

end Pump

/-- Drive a normalizer over a body into a channel. -/
def pump (n : Normalizer) (channel : Channel) (cancelAt : CancelAt) (body : Body) : Channel :=
  Pump.reads cancelAt (.start n channel) body

/-- The events a connected consumer receives. -/
def pumpEvents (n : Normalizer) (cancelAt : CancelAt) (body : Body) : List ChatEvent :=
  (pump n .start cancelAt body).accepted

/-- Replay a response that was read whole and decoded at once. -/
def replay (channel : Channel) (decoded : Except StreamError (List ChatEvent)) : Channel :=
  match decoded with
  | .ok events => Pump.conclude channel events
  | .error cause => Pump.conclude channel [.error cause]

/-- The bytes of a body read to its end. -/
def Body.bytes : Body → Except StreamError Bytes
  | [] => .ok []
  | .chunk bytes :: rest => (Body.bytes rest).map (bytes ++ ·)
  | .failure text :: _ => .error (.transport text)
  | .silence :: _ => .error .cancelled

/-- The events a connected consumer receives of a response that is read
whole, decoded at once and replayed. Where cancellation is seen before the
body was read to its end, nothing is decoded. -/
def wholeEvents (decode : Bytes → Except StreamError (List ChatEvent)) (cancelled : Bool)
    (body : Body) : List ChatEvent :=
  (replay .start (if cancelled then .error .cancelled else body.bytes.bind decode)).accepted

end Turnstile
