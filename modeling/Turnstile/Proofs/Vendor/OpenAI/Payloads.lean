import Turnstile.Proofs.Stream.Handler
import Turnstile.Vendor.OpenAI.Normalizer
/-!
# OpenAI — from lines to payloads

The normalizer goes by the payloads that lines carry, and by the pieces of
choices in their chunks.
-/

namespace Turnstile

namespace OpenAI

deriving instance DecidableEq for Answer
deriving instance DecidableEq for Completion
deriving instance DecidableEq for ChoiceDelta
deriving instance DecidableEq for Chunk
deriving instance DecidableEq for Payload

/-- The payload a line carries, if it carries one. -/
def linePayload? (line : String) : Option Payload :=
  (EventLine.data? line).bind Payload.ofString?

theorem linePayload?_append (payload : String) :
    linePayload? ("data: " ++ payload) = Payload.ofString? payload := by
  rw [linePayload?, EventLine.data?_append, Option.bind_some]

/-- Take in a payload. -/
def Progress.onPayload (p : Progress) : Payload → Progress × List ChatEvent
  | .done => p.finish
  | .chunk c => p.handle c

/-- What is done about the payloads. -/
def handler : Handler Progress Payload :=
  ⟨Progress.onPayload, Progress.finished, fun p => p.finish.2⟩

theorem normalizer_eq : normalizer = handler.normalizer linePayload? .start := by
  have honLine : Progress.onLine = (handler.normalizer linePayload? .start).onLine := by
    funext p line
    simp only [Progress.onLine, linePayload?, handler, Handler.normalizer]
    cases (EventLine.data? line).bind Payload.ofString? with
    | none => rfl
    | some payload => cases payload <;> rfl
  rw [normalizer, honLine]
  rfl

theorem run_eq_follow (lines : List String) :
    normalizer.run lines = handler.follow .start (lines.filterMap linePayload?) := by
  rw [normalizer_eq]
  exact handler.runFrom_eq_follow linePayload? .start .start lines

/-! ## Chunks -/

namespace Progress

theorem handleChoices_append (p : Progress) (cs ds : List ChoiceDelta) :
    p.handleChoices (cs ++ ds) =
      (((p.handleChoices cs).1.handleChoices ds).1,
        (p.handleChoices cs).2 ++ ((p.handleChoices cs).1.handleChoices ds).2) := by
  induction cs generalizing p with
  | nil => rfl
  | cons c cs ih => simp only [List.cons_append, handleChoices, ih, List.append_assoc]

/-- Pieces of choices neither end the stream nor report usage. -/
theorem handleChoices_same (p : Progress) (cs : List ChoiceDelta) :
    (p.handleChoices cs).1.finished = p.finished ∧ (p.handleChoices cs).1.usage = p.usage := by
  induction cs generalizing p with
  | nil => exact ⟨rfl, rfl⟩
  | cons c cs ih =>
    have hchoice : (p.handleChoice c).1.finished = p.finished ∧
        (p.handleChoice c).1.usage = p.usage := by
      unfold handleChoice
      split
      · exact ⟨rfl, rfl⟩
      · split <;> exact ⟨rfl, rfl⟩
    obtain ⟨hfinished, husage⟩ := ih (p.handleChoice c).1
    exact ⟨hfinished.trans hchoice.1, husage.trans hchoice.2⟩

end Progress

/-- The pieces of choices in chunks. -/
def deltas (chunks : List Chunk) : List ChoiceDelta := chunks.flatMap (·.choices)

theorem keeps_chunk {c : Chunk} (h : c.error = none) : handler.Keeps (.chunk c) := by
  intro p hp
  change (p.handle c).1.finished = false
  rw [Progress.handle, h]
  exact (Progress.handleChoices_same _ _).1.trans hp

/-- **Chunks without usage** are the pieces of their choices, however these
are spread over them. -/
theorem through_chunks (p : Progress) {chunks : List Chunk}
    (h : ∀ c ∈ chunks, c.error = none ∧ c.usage = none) :
    handler.through p (chunks.map .chunk) = p.handleChoices (deltas chunks) := by
  induction chunks generalizing p with
  | nil => rfl
  | cons c chunks ih =>
    obtain ⟨herror, husage⟩ := h c List.mem_cons_self
    have hhandle : handler.handle p (.chunk c) = p.handleChoices c.choices := by
      change p.handle c = _
      rw [Progress.handle, herror, husage]
      rfl
    rw [List.map_cons, Handler.through, hhandle, ih _ fun c' hc => h c' (List.mem_cons_of_mem c hc),
      deltas, deltas, List.flatMap_cons, Progress.handleChoices_append]

end OpenAI

end Turnstile
