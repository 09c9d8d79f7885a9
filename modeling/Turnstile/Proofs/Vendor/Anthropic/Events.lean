import Turnstile.Proofs.Json.Equality
import Turnstile.Proofs.Stream.Handler
import Turnstile.Vendor.Anthropic.Normalizer
/-!
# Anthropic — from lines to events

The normalizer goes by the events that lines carry. Events can be compared,
so what a given line carries is decided by reading it.
-/

namespace Turnstile

namespace Anthropic

deriving instance DecidableEq for ContentBlock
deriving instance DecidableEq for Response
deriving instance DecidableEq for Delta
deriving instance DecidableEq for Event

/-- The event a line carries, if it carries one. -/
def lineEvent? (line : String) : Option Event := (EventLine.data? line).bind Event.ofString?

/-- A data line carries the event its payload is. -/
theorem lineEvent?_append (payload : String) :
    lineEvent? ("data: " ++ payload) = Event.ofString? payload := by
  rw [lineEvent?, EventLine.data?_append, Option.bind_some]

/-- What is done about the events. -/
def handler : Handler Progress Event := ⟨Progress.handle, Progress.finished, fun p => p.finish.2⟩

theorem normalizer_eq : normalizer = handler.normalizer lineEvent? .start := by
  have honLine : Progress.onLine = (handler.normalizer lineEvent? .start).onLine := by
    funext p line
    simp only [Progress.onLine, lineEvent?, handler, Handler.normalizer]
    cases (EventLine.data? line).bind Event.ofString? <;> rfl
  rw [normalizer, honLine]
  rfl

theorem answers_eq_replies (lines : List String) :
    normalizer.answers lines = handler.replies .start (lines.map lineEvent?) := by
  rw [normalizer_eq]
  exact handler.answersFrom_eq_replies lineEvent? .start .start lines

theorem run_eq_follow (lines : List String) :
    normalizer.run lines = handler.follow .start (lines.filterMap lineEvent?) := by
  rw [normalizer_eq]
  exact handler.runFrom_eq_follow lineEvent? .start .start lines

end Anthropic

end Turnstile
