import Turnstile.Chat.Event
/-!
# The event channel — a bounded queue that ends with its stream

A producer emits events, a consumer takes them, and at most `capacity`
wait in between. The first terminal event closes the producer's side, so
nothing can follow it; when the consumer leaves, nothing more is accepted.
A channel is seen through what it has `accepted`, whether it still waits or
was taken.
-/

namespace Turnstile

/-- A channel: what waits, what the consumer has taken, and which sides
are still there. -/
structure Channel where
  queue : List ChatEvent
  taken : List ChatEvent
  producing : Bool
  consuming : Bool
  deriving Repr

namespace Channel

/-- Events that may wait at once. -/
def capacity : Nat := 64

/-- Both sides there, nothing sent. -/
def start : Channel := ⟨[], [], true, true⟩

/-- Everything accepted so far, in order. -/
def accepted (c : Channel) : List ChatEvent := c.taken ++ c.queue

/-- The producer can send no more, or nobody listens. -/
def isClosed (c : Channel) : Bool := !c.producing || !c.consuming

/-- Emit an event. `none` means that the producer has to wait; otherwise
the answer tells whether it may go on. -/
def emit? (c : Channel) (e : ChatEvent) : Option (Bool × Channel) :=
  if !c.producing then some (false, c)
  else if !c.consuming then some (false, { c with producing := false })
  else if capacity ≤ c.queue.length then none
  else
    some (!e.isTerminal,
      { c with queue := c.queue ++ [e], producing := !e.isTerminal })

/-- The consumer takes the next event. -/
def take? (c : Channel) : Option (ChatEvent × Channel) :=
  match c.consuming, c.queue with
  | true, e :: rest => some (e, { c with queue := rest, taken := c.taken ++ [e] })
  | _, _ => none

/-- The consumer takes whatever waits. -/
def drain (c : Channel) : Channel :=
  if c.consuming then { c with queue := [], taken := c.taken ++ c.queue } else c

/-- The consumer leaves. -/
def leave (c : Channel) : Channel := { c with consuming := false, queue := [] }

/-- Emit to a consumer that keeps reading: where the queue is full, it is
drained first. -/
def emit (c : Channel) (e : ChatEvent) : Bool × Channel :=
  match c.emit? e with
  | some answer => answer
  | none => (c.drain.emit? e).getD (false, c)

/-- Emit events in turn until the channel wants no more. -/
def emitAll (c : Channel) : List ChatEvent → Bool × Channel
  | [] => (true, c)
  | e :: es =>
    match c.emit e with
    | (true, c) => emitAll c es
    | (false, c) => (false, c)

/-- Draining moves events and loses none. -/
@[simp] theorem accepted_drain (c : Channel) : c.drain.accepted = c.accepted := by
  unfold drain
  split <;> simp [accepted]

end Channel

end Turnstile
