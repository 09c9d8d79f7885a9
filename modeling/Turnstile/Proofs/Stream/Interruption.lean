import Turnstile.Proofs.Stream.Calls
/-!
# Interruption — a disturbance only cuts the stream

What a pump does before a disturbance does not depend on it. So
cancellation and failed reads leave whole lines of those that the chunks
completed, and one error after what was answered to them (`cut_of_quiet`),
unless the stream had ended by itself before
(`undisturbed_of_not_quiet`).
-/

namespace Turnstile

open ChatEvent

namespace Pump

variable {n : Normalizer} {cancelAt : CancelAt}

/-! ## Disturbances -/

/-- The lines fed of a body. -/
def fed (cancelAt : CancelAt) (body : Body) : List String :=
  (heed cancelAt 0 (looksAt .empty body)).1

/-- What disturbs the reading of a body: cancellation, if a look sees it,
or the fault that the reads come to. -/
def disturbance? (cancelAt : CancelAt) (body : Body) : Option StreamError :=
  if (heed cancelAt 0 (looksAt .empty body)).2 then some .cancelled else body.fault?

theorem lineFeed_not_mem_empty : LineBuffer.lineFeed ∉ LineBuffer.empty.pending :=
  List.not_mem_nil

/-- **Only completed lines are fed where there is a disturbance.** -/
theorem fed_isPrefix {cause : StreamError} {body : Body}
    (h : disturbance? cancelAt body = some cause) : fed cancelAt body <+: body.completed := by
  rw [disturbance?] at h
  by_cases hseen : (heed cancelAt 0 (looksAt .empty body)).2 = true
  · exact heed_looksAt_isPrefix lineFeed_not_mem_empty hseen
  · rw [if_neg hseen] at h
    have hfault : body.fault? ≠ none := by simp [h]
    have hall := heed_of_not_seen hseen
    rw [reduceOption_looksAt hfault lineFeed_not_mem_empty] at hall
    rw [fed, hall]
    exact List.prefix_rfl

/-- What disturbs a reading is cancellation that somebody asked for, or the
failure of a read; then all completed lines were fed before it. -/
theorem disturbance?_eq_some {cause : StreamError} {body : Body}
    (h : disturbance? cancelAt body = some cause) :
    (cause = .cancelled ∧ (cancelAt ≠ none ∨ body.fault? = some .cancelled)) ∨
      ∃ text, cause = .transport text ∧ body.fault? = some (.transport text) ∧
        fed cancelAt body = body.completed := by
  rw [disturbance?] at h
  by_cases hseen : (heed cancelAt 0 (looksAt .empty body)).2 = true
  · rw [if_pos hseen, Option.some.injEq] at h
    refine Or.inl ⟨h.symm, Or.inl fun hnone => ?_⟩
    rw [hnone, heed_none] at hseen
    cases hseen
  · rw [if_neg hseen] at h
    have hall := heed_of_not_seen hseen
    rw [reduceOption_looksAt (by simp [h]) lineFeed_not_mem_empty] at hall
    rcases Body.fault?_eq_some h with rfl | ⟨text, rfl⟩
    · exact Or.inl ⟨rfl, Or.inr h⟩
    · exact Or.inr ⟨text, rfl, h, hall⟩

/-- **A pump that is disturbed in time** asks about the lines fed alone. -/
theorem noted_of_quiet {cause : StreamError} {body : Body}
    (h : disturbance? cancelAt body = some cause)
    (hq : Quiet (n.feed n.start (fed cancelAt body)).2.flatten) :
    noted n cancelAt body = (pump n .start cancelAt body, (fed cancelAt body).map .line) := by
  refine Prod.ext (noted_fst n cancelAt body) ?_
  refine readsNoted_snd (.start n .start) Channel.isOpen_start body hq ?_
  rw [disturbance?] at h
  split at h
  · rename_i hseen
    exact Or.inl hseen
  · exact Or.inr (by simp [h])

end Pump

/-! ## What is received -/

section

variable (n : Normalizer) (cancelAt : CancelAt) (body : Body)

/-- The stream ends by itself before a disturbance, if there is one: one of
the lines fed has ended it. -/
def EndsBefore : Prop :=
  ∀ cause, Pump.disturbance? cancelAt body = some cause →
    ¬ Quiet (n.feed n.start (Pump.fed cancelAt body)).2.flatten

/-- The events are those of an undisturbed run over the body: over its
chunks and, if a fault came instead of its end, whatever there would have
been after them. -/
def Undisturbed : Prop :=
  ∀ more : List Bytes, (body.fault? = none → more = []) →
    pumpEvents n cancelAt body = pumpEvents n none ((body.arrived ++ more).map .chunk)

/-- The stream is cut after lines that did not end it, and the cause is
told. -/
structure Cut (fed : List String) (cause : StreamError) : Prop where
  /-- Whole lines are fed, in order and none left out. -/
  lines : fed <+: body.completed
  /-- A failed read comes after all that was completed before it. -/
  reason : (cause = .cancelled ∧ (cancelAt ≠ none ∨ body.fault? = some .cancelled)) ∨
    ∃ text, cause = .transport text ∧ body.fault? = some (.transport text) ∧ fed = body.completed
  quiet : Quiet (n.feed n.start fed).2.flatten
  events : pumpEvents n cancelAt body = (n.feed n.start fed).2.flatten ++ [.error cause]
  /-- Nothing is asked about another line, nor about the end. -/
  calls : Pump.noted n cancelAt body = (pump n .start cancelAt body, fed.map .line)

end

variable {n : Normalizer} {cancelAt : CancelAt} {body : Body}

theorem pumpEvents_eq_fed (n : Normalizer) (cancelAt : CancelAt) (body : Body) :
    pumpEvents n cancelAt body =
      untilTerminal ((n.feed n.start (Pump.fed cancelAt body)).2.flatten ++
        Pump.ending n body (Pump.heed cancelAt 0 (Pump.looksAt .empty body)).2
          (n.feed n.start (Pump.fed cancelAt body)).1) := by
  rw [pumpEvents_eq, Pump.script_eq]
  rfl

/-- Without a disturbance all is as if nobody could cancel. -/
theorem undisturbed_of_none (h : Pump.disturbance? cancelAt body = none) :
    Undisturbed n cancelAt body := by
  intro more hmore
  rw [Pump.disturbance?] at h
  by_cases hseen : (Pump.heed cancelAt 0 (Pump.looksAt .empty body)).2 = true
  · rw [if_pos hseen] at h
    cases h
  · rw [if_neg hseen] at h
    have hnever : ¬ (Pump.heed none 0 (Pump.looksAt .empty body)).2 = true := by
      rw [Pump.heed_none]
      exact Bool.false_ne_true
    have hsame : Pump.fed cancelAt body = Pump.fed none body := by
      rw [Pump.fed, Pump.heed_of_not_seen hseen, Pump.fed, Pump.heed_of_not_seen hnever]
    rw [hmore h, List.append_nil, ← Body.eq_of_fault? h, pumpEvents_eq_fed, pumpEvents_eq_fed,
      hsame, Pump.heed_none, Bool.eq_false_iff.mpr hseen]

/-- Where the lines fed have ended the stream, the disturbance comes too
late to be noticed. -/
theorem undisturbed_of_not_quiet {cause : StreamError}
    (h : Pump.disturbance? cancelAt body = some cause)
    (hq : ¬ Quiet (n.feed n.start (Pump.fed cancelAt body)).2.flatten) :
    Undisturbed n cancelAt body := by
  intro more _
  -- an undisturbed run feeds these lines first, and goes no further either
  obtain ⟨rest, hrest⟩ := Pump.fed_isPrefix h
  have hlines : LineBuffer.linesOf (LineBuffer.empty.pending ++ (body.arrived ++ more).flatten) =
      Pump.fed cancelAt body ++ (rest ++ LineBuffer.linesOf
        (LineBuffer.unfinished body.arrived.flatten ++ more.flatten)) := by
    rw [← List.append_assoc, hrest, List.flatten_append, LineBuffer.empty, List.nil_append,
      LineBuffer.linesOf_append]
    rfl
  rw [pumpEvents_eq_fed, untilTerminal_append_of_not_quiet hq, pumpEvents_eq,
    Pump.script_chunks _ _ _ Pump.lineFeed_not_mem_empty, hlines, n.runFrom_append,
    List.append_assoc, untilTerminal_append_of_not_quiet hq]

/-- What is received where the lines fed have not ended the stream. -/
theorem pumpEvents_of_quiet {cause : StreamError}
    (h : Pump.disturbance? cancelAt body = some cause)
    (hq : Quiet (n.feed n.start (Pump.fed cancelAt body)).2.flatten) :
    pumpEvents n cancelAt body =
      (n.feed n.start (Pump.fed cancelAt body)).2.flatten ++ [.error cause] := by
  have hending (s : n.State) : Pump.ending n body
      (Pump.heed cancelAt 0 (Pump.looksAt .empty body)).2 s = [.error cause] := by
    rw [Pump.disturbance?] at h
    rw [Pump.ending]
    split at h
    · rename_i hseen
      rw [if_pos hseen, ← Option.some.inj h]
    · rename_i hseen
      rw [if_neg hseen, h, Option.elim_some]
  rw [pumpEvents_eq_fed, untilTerminal_append_of_quiet hq, hending]
  rfl

/-- **Where the lines fed have not ended the stream, it is cut there.** -/
theorem cut_of_quiet {cause : StreamError} (h : Pump.disturbance? cancelAt body = some cause)
    (hq : Quiet (n.feed n.start (Pump.fed cancelAt body)).2.flatten) :
    Cut n cancelAt body (Pump.fed cancelAt body) cause :=
  ⟨Pump.fed_isPrefix h, Pump.disturbance?_eq_some h, hq, pumpEvents_of_quiet h hq,
    Pump.noted_of_quiet h hq⟩

/-- **A disturbance only cuts the stream.** Whenever cancellation is seen
and wherever a read fails, the events are those of an undisturbed run,
where the stream ends before; or they are those of whole lines with one
error after them, and then nothing was asked about any other line, nor
about the end. -/
theorem undisturbed_or_cut (n : Normalizer) (cancelAt : CancelAt) (body : Body) :
    (EndsBefore n cancelAt body ∧ Undisturbed n cancelAt body) ∨
      ∃ cause, Pump.disturbance? cancelAt body = some cause ∧
        Cut n cancelAt body (Pump.fed cancelAt body) cause := by
  cases h : Pump.disturbance? cancelAt body with
  | none =>
    refine Or.inl ⟨fun cause hsome => ?_, undisturbed_of_none h⟩
    rw [h] at hsome
    cases hsome
  | some cause =>
    by_cases hq : Quiet (n.feed n.start (Pump.fed cancelAt body)).2.flatten
    · exact Or.inr ⟨cause, rfl, cut_of_quiet h hq⟩
    · exact Or.inl ⟨fun _ _ => hq, undisturbed_of_not_quiet h hq⟩

/-- Cancelled at the fourth look, before the second line: neither that line
nor the part of a third one that has arrived is asked about. -/
example :
    (Pump.noted .echo (some 3) [.chunk [0x61, 0x0A, 0x62], .chunk [0x63, 0x0A, 0x64]]).2 =
      [.line "a"] := by
  decide +kernel

end Turnstile
