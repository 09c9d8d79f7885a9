import Turnstile.Tool.Basic
/-!
# Chat events — the vocabulary of every stream

A stream is any number of tokens and tool calls and then exactly one
terminal event, which either reports usage or gives the cause of failure.
-/

namespace Turnstile

/-- Token counts reported by a vendor. -/
structure Usage where
  input : Nat
  output : Nat
  deriving DecidableEq, Repr, Inhabited

namespace Usage

/-- Nothing reported. -/
def zero : Usage := ⟨0, 0⟩

/-- A later report merged into an earlier one: a nought tells nothing. -/
def merge (earlier later : Usage) : Usage :=
  ⟨if 0 < later.input then later.input else earlier.input,
   if 0 < later.output then later.output else earlier.output⟩

/-- Both counts together. -/
def total (u : Usage) : Nat := u.input + u.output

@[simp] theorem zero_merge (u : Usage) : zero.merge u = u := by
  obtain ⟨input, output⟩ := u
  simp only [merge, zero, mk.injEq]
  constructor <;> split <;> omega

@[simp] theorem merge_zero (u : Usage) : u.merge zero = u := rfl

/-- **However reports are grouped**, they merge to the same. -/
theorem merge_assoc (u v w : Usage) : (u.merge v).merge w = u.merge (v.merge w) := by
  have hlast (a b c : Nat) : (if 0 < c then c else if 0 < b then b else a) =
      if 0 < (if 0 < c then c else b) then (if 0 < c then c else b) else a := by
    by_cases hc : 0 < c <;> simp [hc]
  simp only [merge, mk.injEq]
  exact ⟨hlast u.input v.input w.input, hlast u.output v.output w.output⟩

end Usage

/-- Why a stream failed. -/
inductive StreamError where
  | cancelled
  | transport (text : String)
  | vendor (text : String)
  | decode (text : String)
  deriving DecidableEq, Repr, Inhabited

namespace StreamError

/-- The message shown to the user. -/
def message : StreamError → String
  | .cancelled => "Stream cancelled"
  | .transport text => "Transport error: " ++ text
  | .vendor text => "Vendor error: " ++ text
  | .decode text => "Decode error: " ++ text

end StreamError

/-- One event of a stream. -/
inductive ChatEvent where
  | token (text : String)
  | toolCall (call : ToolCall)
  | done (usage : Usage)
  | error (cause : StreamError)
  deriving Repr, Inhabited

namespace ChatEvent

/-- The event ends its stream. -/
def isTerminal : ChatEvent → Bool
  | .done _ | .error _ => true
  | _ => false

/-- The text of a token. -/
def text? : ChatEvent → Option String
  | .token s => some s
  | _ => none

/-- The events up to and including the first terminal one. -/
def untilTerminal : List ChatEvent → List ChatEvent
  | [] => []
  | e :: es => if e.isTerminal then [e] else e :: untilTerminal es

end ChatEvent

/-- What one completed turn said. -/
structure ChatTurn where
  text : String
  toolCalls : List ToolCall
  usage : Usage
  deriving Repr, Inhabited

namespace ChatTurn

/-- Nothing said yet. -/
def empty : ChatTurn := ⟨"", [], .zero⟩

/-- Add to a turn with the events of a stream. A stream that stops
without a terminal event has failed. -/
def gather (turn : ChatTurn) : List ChatEvent → Except StreamError ChatTurn
  | [] => .error (.transport "stream closed without a terminal event")
  | .token s :: es => gather { turn with text := turn.text ++ s } es
  | .toolCall c :: es => gather { turn with toolCalls := turn.toolCalls ++ [c] } es
  | .done usage :: _ => .ok { turn with usage }
  | .error cause :: _ => .error cause

/-- Gather a whole stream. -/
def collect (events : List ChatEvent) : Except StreamError ChatTurn := empty.gather events

end ChatTurn

end Turnstile
