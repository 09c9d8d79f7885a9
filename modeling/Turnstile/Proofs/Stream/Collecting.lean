import Turnstile.Proofs.Stream.Answers
import Turnstile.Proofs.Stream.Ending
/-!
# Collecting a turn

What collecting a stream comes to is settled by its first terminal event,
and by there being none if there is none (`Outcome`). Events before it
only add to the turn (`gather_append_of_quiet`) and events after it are
not looked at (`collect_append_of_not_quiet`), so the three cases are all
there is (`collect_eq_iff`).
-/

namespace Turnstile

namespace ChatEvent

/-- Events that end the stream have a first that does. -/
theorem exists_first_terminal {es : List ChatEvent} (h : ¬ Quiet es) :
    ∃ before e after, es = before ++ e :: after ∧ Quiet before ∧ e.isTerminal = true := by
  induction es with
  | nil => exact absurd quiet_nil h
  | cons e es ih =>
    by_cases he : e.isTerminal = true
    · exact ⟨[], e, es, rfl, quiet_nil, he⟩
    · have he : e.isTerminal = false := by simpa using he
      obtain ⟨before, last, after, hes, hq, hlast⟩ := ih fun hes => h (quiet_cons.mpr ⟨he, hes⟩)
      exact ⟨e :: before, last, after, by rw [hes, List.cons_append], quiet_cons.mpr ⟨he, hq⟩,
        hlast⟩

end ChatEvent

open ChatEvent

namespace ChatTurn

variable {es : List ChatEvent}

/-- The turn with what events tell that do not end the stream. -/
def telling (turn : ChatTurn) (es : List ChatEvent) : ChatTurn where
  text := turn.text ++ String.join (es.filterMap ChatEvent.text?)
  toolCalls := turn.toolCalls ++ es.filterMap ChatEvent.call?
  usage := turn.usage

theorem telling_nil (turn : ChatTurn) : turn.telling [] = turn := by
  rw [telling, List.filterMap_nil, List.filterMap_nil, String.join_nil, String.append_empty,
    List.append_nil]

/-- **Events that do not end the stream are added to the turn**, and
gathering goes on. -/
theorem gather_append_of_quiet (h : Quiet es) (turn : ChatTurn) (rest : List ChatEvent) :
    turn.gather (es ++ rest) = (turn.telling es).gather rest := by
  induction es generalizing turn with
  | nil => rw [telling_nil, List.nil_append]
  | cons e es ih =>
    obtain ⟨he, hes⟩ := quiet_cons.mp h
    cases e with
    | token s =>
      have hstep : ({ turn with text := turn.text ++ s } : ChatTurn).telling es =
          turn.telling (.token s :: es) := by
        have htext : (ChatEvent.token s :: es).filterMap ChatEvent.text? =
            s :: es.filterMap ChatEvent.text? := rfl
        rw [telling, telling, htext, String.join_cons, ← String.append_assoc]
        rfl
      rw [List.cons_append, gather, ih hes, hstep]
    | toolCall c =>
      have hstep : ({ turn with toolCalls := turn.toolCalls ++ [c] } : ChatTurn).telling es =
          turn.telling (.toolCall c :: es) := by
        have hcalls : (ChatEvent.toolCall c :: es).filterMap ChatEvent.call? =
            c :: es.filterMap ChatEvent.call? := rfl
        rw [telling, telling, hcalls, List.append_cons turn.toolCalls c (es.filterMap _)]
        rfl
      rw [List.cons_append, gather, ih hes, hstep]
    | done usage => cases he
    | error cause => cases he

/-- What collecting a stream comes to, by its first terminal event: the
turn told before a report of usage, the cause of a failure, or, where no
event ends the stream, the failure that it just stopped. -/
inductive Outcome : List ChatEvent → Except StreamError ChatTurn → Prop
  | done {before : List ChatEvent} (usage : Usage) (after : List ChatEvent) :
      Quiet before →
      Outcome (before ++ .done usage :: after)
        (.ok ⟨String.join (before.filterMap ChatEvent.text?),
          before.filterMap ChatEvent.call?, usage⟩)
  | failed {before : List ChatEvent} (cause : StreamError) (after : List ChatEvent) :
      Quiet before → Outcome (before ++ .error cause :: after) (.error cause)
  | stopped {es : List ChatEvent} :
      Quiet es → Outcome es (.error (.transport "stream closed without a terminal event"))

/-- Collecting comes to its outcome. -/
theorem Outcome.collect_eq {x : Except StreamError ChatTurn} (h : Outcome es x) :
    ChatTurn.collect es = x := by
  cases h with
  | done usage after hq =>
    rw [collect, gather_append_of_quiet hq, gather, telling]
    simp only [empty, String.empty_append, List.nil_append]
  | failed cause after hq => rw [collect, gather_append_of_quiet hq, gather]
  | stopped hq =>
    have hgather := gather_append_of_quiet hq empty []
    rw [List.append_nil] at hgather
    rw [collect, hgather, gather]

/-- Either no event ends the stream, or there is a first that does. -/
theorem exists_outcome (es : List ChatEvent) : ∃ x, Outcome es x := by
  by_cases hq : Quiet es
  · exact ⟨_, .stopped hq⟩
  · obtain ⟨before, e, after, hes, hbefore, he⟩ := exists_first_terminal hq
    subst hes
    cases e with
    | token s => cases he
    | toolCall c => cases he
    | done usage => exact ⟨_, .done usage after hbefore⟩
    | error cause => exact ⟨_, .failed cause after hbefore⟩

/-- **Collecting comes to the outcome, and to nothing else.** -/
theorem collect_eq_iff {x : Except StreamError ChatTurn} :
    ChatTurn.collect es = x ↔ Outcome es x := by
  refine ⟨fun h => ?_, Outcome.collect_eq⟩
  obtain ⟨y, hy⟩ := exists_outcome es
  rw [← h, hy.collect_eq]
  exact hy

/-- After a terminal event nothing is collected. -/
theorem collect_append_of_not_quiet (h : ¬ Quiet es) (rest : List ChatEvent) :
    ChatTurn.collect (es ++ rest) = ChatTurn.collect es := by
  obtain ⟨before, e, after, hes, hbefore, he⟩ := exists_first_terminal h
  subst hes
  rw [List.append_assoc, List.cons_append, collect, collect, gather_append_of_quiet hbefore,
    gather_append_of_quiet hbefore]
  cases e with
  | token s => cases he
  | toolCall c => cases he
  | done usage => rfl
  | error cause => rfl

end ChatTurn

end Turnstile
