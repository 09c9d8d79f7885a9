import Turnstile.Proofs.Json.Equality
import Turnstile.Proofs.Stream.Handler
import Turnstile.Vendor.Gemini.Normalizer
/-!
# Gemini — from lines to parts

The normalizer goes by the responses that lines carry, and by the parts of
their first candidates. What has been seen before matters to a part only
by the number of calls (`handleParts_withUsage`), so responses without an
error payload come to the parts of them all, taken in at once
(`follow_eq`): how the parts are spread over them leaves no trace.
-/

namespace Turnstile

namespace Gemini

deriving instance DecidableEq for FunctionCall
deriving instance DecidableEq for ResponsePart
deriving instance DecidableEq for Candidate
deriving instance DecidableEq for Response

/-- The response a line carries, if it carries one. -/
def lineResponse? (line : String) : Option Response :=
  (EventLine.data? line).bind Response.ofString?

theorem lineResponse?_append (payload : String) :
    lineResponse? ("data: " ++ payload) = Response.ofString? payload := by
  rw [lineResponse?, EventLine.data?_append, Option.bind_some]

/-- What is done about the responses. -/
def handler : Handler Progress Response :=
  ⟨Progress.handle, Progress.finished, fun p => [.done p.usage]⟩

theorem normalizer_eq : normalizer = handler.normalizer lineResponse? .start := by
  have honLine : Progress.onLine = (handler.normalizer lineResponse? .start).onLine := by
    funext p line
    simp only [Progress.onLine, lineResponse?, handler, Handler.normalizer]
    cases (EventLine.data? line).bind Response.ofString? <;> rfl
  rw [normalizer, honLine]
  rfl

theorem run_eq_follow (lines : List String) :
    normalizer.run lines = handler.follow .start (lines.filterMap lineResponse?) := by
  rw [normalizer_eq]
  exact handler.runFrom_eq_follow lineResponse? .start .start lines

/-- A response that is read whole is a stream of one. -/
theorem events_eq_follow (r : Response) : r.events = handler.follow .start [r] := by
  rw [Handler.follow_cons rfl, Handler.follow]
  rfl

/-! ## Parts -/

namespace Progress

variable {p : Progress}

theorem handleParts_append (p : Progress) (parts more : List ResponsePart) :
    p.handleParts (parts ++ more) =
      (((p.handleParts parts).1.handleParts more).1,
        (p.handleParts parts).2 ++ ((p.handleParts parts).1.handleParts more).2) := by
  induction parts generalizing p with
  | nil => rfl
  | cons part parts ih => simp only [List.cons_append, handleParts, ih, List.append_assoc]

/-- The same with another usage. -/
def withUsage (p : Progress) (usage : Usage) : Progress := { p with usage }

theorem handlePart_withUsage (p : Progress) (usage : Usage) (part : ResponsePart) :
    (p.withUsage usage).handlePart part =
      ((p.handlePart part).1.withUsage usage, (p.handlePart part).2) := by
  cases part with
  | call c =>
    have hid : (p.withUsage usage).callId c.id = p.callId c.id := by
      cases c.id <;> rfl
    rw [handlePart, hid]
    rfl
  | text s thought => rfl
  | other => rfl

/-- **Parts do not depend on usage**, nor change it. -/
theorem handleParts_withUsage (p : Progress) (usage : Usage) (parts : List ResponsePart) :
    (p.withUsage usage).handleParts parts =
      ((p.handleParts parts).1.withUsage usage, (p.handleParts parts).2) := by
  induction parts generalizing p with
  | nil => rfl
  | cons part parts ih =>
    rw [handleParts, handlePart_withUsage]
    simp only [ih]
    rfl

/-- Parts neither end the stream nor report usage. -/
theorem handleParts_same (p : Progress) (parts : List ResponsePart) :
    (p.handleParts parts).1.finished = p.finished ∧ (p.handleParts parts).1.usage = p.usage := by
  induction parts generalizing p with
  | nil => exact ⟨rfl, rfl⟩
  | cons part parts ih =>
    have hpart : (p.handlePart part).1.finished = p.finished ∧
        (p.handlePart part).1.usage = p.usage := by
      cases part <;> exact ⟨rfl, rfl⟩
    obtain ⟨hfinished, husage⟩ := ih (p.handlePart part).1
    exact ⟨hfinished.trans hpart.1, husage.trans hpart.2⟩

/-- A response without an error payload: its usage, then its parts. -/
theorem handle_eq {r : Response} (h : r.error = none) :
    p.handle r =
      ((p.handleParts (partsOf r)).1.withUsage (r.usage.toList.foldl Usage.merge p.usage),
        (p.handleParts (partsOf r)).2) := by
  have husage : (r.usage.map p.usage.merge).getD p.usage =
      r.usage.toList.foldl Usage.merge p.usage := by
    cases r.usage <;> rfl
  rw [handle, h]
  simp only [husage]
  exact handleParts_withUsage p _ (partsOf r)

end Progress

open Progress

theorem keeps_of_error {r : Response} (h : r.error = none) : handler.Keeps r := by
  intro p hp
  change (p.handle r).1.finished = false
  rw [handle_eq h]
  exact (handleParts_same p (partsOf r)).1.trans hp

/-- An error payload ends the stream: it is told, and nothing after it. -/
theorem follow_of_error {p : Progress} (hp : p.finished = false) {r : Response}
    {status message : String} (h : r.error = some (status, message)) (rest : List Response) :
    handler.follow p (r :: rest) = [.error (.vendor (status ++ ": " ++ message))] := by
  have hhandle : handler.handle p r =
      ({ p with finished := true }, [.error (.vendor (status ++ ": " ++ message))]) := by
    change p.handle r = _
    rw [Progress.handle, h]
  rw [Handler.follow_cons (h := handler) hp, hhandle, Handler.follow_of_finished rfl]
  rfl

/-- **Responses without an error payload** come to the parts of them all
and to their reports of usage, merged. -/
theorem through_eq (p : Progress) {rs : List Response} (h : ∀ r ∈ rs, r.error = none) :
    handler.through p rs =
      ((p.handleParts (rs.flatMap partsOf)).1.withUsage
          ((rs.filterMap (·.usage)).foldl Usage.merge p.usage),
        (p.handleParts (rs.flatMap partsOf)).2) := by
  induction rs generalizing p with
  | nil => rfl
  | cons r rs ih =>
    have hhandle : handler.handle p r = _ := handle_eq (p := p) (h r List.mem_cons_self)
    have hreports : (r :: rs).filterMap (·.usage) = r.usage.toList ++ rs.filterMap (·.usage) := by
      cases hu : r.usage <;> simp [hu]
    rw [Handler.through, hhandle, ih _ fun r' hr => h r' (List.mem_cons_of_mem r hr),
      handleParts_withUsage, List.flatMap_cons, handleParts_append, hreports, List.foldl_append]
    rfl

/-- And a stream of them ends with the usage. -/
theorem follow_eq {rs : List Response} (h : ∀ r ∈ rs, r.error = none) :
    handler.follow .start rs =
      (start.handleParts (rs.flatMap partsOf)).2 ++
        [.done ((rs.filterMap (·.usage)).foldl Usage.merge .zero)] := by
  have hkeeps : ∀ r ∈ rs, handler.Keeps r := fun r hr => keeps_of_error (h r hr)
  have hopen := Handler.finished_through hkeeps (s := start) rfl
  have hfollow := Handler.follow_append hkeeps (s := start) rfl []
  rw [List.append_nil, Handler.follow, Handler.onEnd_of_open hopen, through_eq _ h] at hfollow
  exact hfollow

end Gemini

end Turnstile
