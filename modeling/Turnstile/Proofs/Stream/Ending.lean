import Turnstile.Proofs.Stream.Script
/-!
# One ending

Whatever a normalizer answers, wherever the body fails and whenever the
run is cancelled, the consumer that stays receives exactly one terminal
event, and receives it last. The channel cuts what follows the first one
(`endsOnce_untilTerminal`); what is left to show is that every script has
one to cut at, and the pump's report of nothing at its end is what sees to
it where the normalizer does not.
-/

namespace Turnstile

namespace ChatEvent

/-- Exactly one of the events is terminal, and it is the last. -/
def EndsOnce (es : List ChatEvent) : Prop :=
  ∃ before last, es = before ++ [last] ∧ Quiet before ∧ last.isTerminal = true

/-- **A stream that has a terminal event is cut to end with it.** -/
theorem endsOnce_untilTerminal {es : List ChatEvent} (h : ¬ Quiet es) :
    EndsOnce (untilTerminal es) := by
  induction es with
  | nil => exact absurd quiet_nil h
  | cons e es ih =>
    rw [untilTerminal]
    by_cases he : e.isTerminal = true
    · rw [if_pos he]
      exact ⟨[], e, rfl, quiet_nil, he⟩
    · rw [if_neg he]
      have he : e.isTerminal = false := by simpa using he
      obtain ⟨before, last, heq, hq, hlast⟩ := ih fun hes => h (quiet_cons.mpr ⟨he, hes⟩)
      exact ⟨e :: before, last, by rw [heq, List.cons_append], quiet_cons.mpr ⟨he, hq⟩, hlast⟩

/-- Events are not quiet where the last of them is terminal. -/
theorem not_quiet_append_singleton (es : List ChatEvent) {e : ChatEvent}
    (he : e.isTerminal = true) : ¬ Quiet (es ++ [e]) := by
  intro hq
  have := (quiet_cons.mp (quiet_append.mp hq).2).1
  rw [he] at this
  cases this

end ChatEvent

open ChatEvent

namespace Pump

variable {n : Normalizer} {cancelAt : CancelAt}

/-- Where nothing follows the lines, they have ended the stream; else what
follows them does. -/
theorem not_quiet_followedBy {next : n.State → List ChatEvent} (h : ∀ s, ¬ Quiet (next s))
    (looks : Nat) (s : n.State) (lines : List String) :
    ¬ Quiet (followedBy (lineScript n cancelAt looks s lines) next) := by
  intro hq
  obtain ⟨hlines, hnext⟩ := quiet_append.mp hq
  rcases hfinal : (lineScript n cancelAt looks s lines).2 with - | final
  · exact not_quiet_of_lineScript hfinal hlines
  · rw [hfinal] at hnext
    exact h final hnext

/-- **Every script has a terminal event.** -/
theorem not_quiet_script (looks : Nat) (s : n.State) (buffer : LineBuffer) (body : Body) :
    ¬ Quiet (script n cancelAt looks s buffer body) := by
  induction body generalizing looks s buffer with
  | nil =>
    rw [script]
    split
    · exact not_quiet_append_singleton [] rfl
    · -- whatever the normalizer answers to the end, a report follows it
      exact not_quiet_followedBy (fun s => not_quiet_append_singleton (n.onEnd s) rfl) _ _ _
  | cons read body ih =>
    cases read with
    | silence =>
      rw [script]
      split <;> exact not_quiet_append_singleton [] rfl
    | failure text =>
      rw [script]
      split <;> exact not_quiet_append_singleton [] rfl
    | chunk bytes =>
      rw [script]
      split
      · exact not_quiet_append_singleton [] rfl
      · exact not_quiet_followedBy (fun s => ih _ s _) _ _ _

end Pump

/-- A pump's consumer receives one ending. -/
theorem endsOnce_pumpEvents (n : Normalizer) (cancelAt : CancelAt) (body : Body) :
    EndsOnce (pumpEvents n cancelAt body) := by
  rw [pumpEvents_eq]
  exact endsOnce_untilTerminal (Pump.not_quiet_script 0 n.start .empty body)

/-- The consumer of a replayed response receives one ending. -/
theorem endsOnce_replay (decoded : Except StreamError (List ChatEvent)) :
    EndsOnce (replay .start decoded).accepted := by
  rw [accepted_replay]
  cases decoded with
  | ok events => exact endsOnce_untilTerminal (not_quiet_append_singleton events rfl)
  | error cause => exact endsOnce_untilTerminal (not_quiet_append_singleton [.error cause] rfl)

/-- **Exactly one terminal event, and it comes last**: for every
normalizer, every body and every moment of cancellation, and as well for
every way of decoding a response that is read whole. -/
theorem received_endsOnce :
    (∀ (n : Normalizer) (cancelAt : CancelAt) (body : Body),
      EndsOnce (pumpEvents n cancelAt body)) ∧
    ∀ (decode : Bytes → Except StreamError (List ChatEvent)) (cancelled : Bool) (body : Body),
      EndsOnce (wholeEvents decode cancelled body) :=
  ⟨endsOnce_pumpEvents, fun _ _ _ => endsOnce_replay _⟩

end Turnstile
