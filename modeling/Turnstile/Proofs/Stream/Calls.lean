import Turnstile.Proofs.Stream.Looks
/-!
# The calls of a pump

A pump asks its normalizer what to answer to a line and what to answer to
the end, and what it sends does not tell of all the questions: answers may
be empty, and a closed channel takes none. Here the pump notes each of
them as it asks. Without the notes it is the pump as it was
(`readsNoted_fst`); with them it is seen that a pump disturbed before its
stream ends asks about the lines fed and nothing else (`readsNoted_snd`).
-/

namespace Turnstile

open ChatEvent

namespace Pump

variable {n : Normalizer} {cancelAt : CancelAt}

/-- What a normalizer is asked. -/
inductive Call where
  | line (text : String)
  | ending
  deriving DecidableEq, Repr

/-- Feed lines and note them. -/
def feedLinesNoted (cancelAt : CancelAt) (r : Run n) :
    List String → Except Channel (Run n) × List Call
  | [] => (.ok r, [])
  | line :: lines =>
    if seesCancel cancelAt r.looks then (.error (fail r.channel .cancelled), [])
    else
      let (state, events) := n.onLine r.state line
      match r.channel.emitAll events with
      | (true, channel) =>
        let (result, calls) :=
          feedLinesNoted cancelAt { r with state, channel, looks := r.looks + 1 } lines
        (result, .line line :: calls)
      | (false, channel) => (.error channel, [.line line])

/-- End the body and note what is asked. -/
def finishNoted (cancelAt : CancelAt) (r : Run n) : Channel × List Call :=
  match feedLinesNoted cancelAt r r.buffer.finish.2.toList with
  | (.error channel, calls) => (channel, calls)
  | (.ok r, calls) => (conclude r.channel (n.onEnd r.state), calls ++ [.ending])

/-- Read the body to its end and note what is asked. -/
def readsNoted (cancelAt : CancelAt) (r : Run n) : Body → Channel × List Call
  | [] =>
    if seesCancel cancelAt r.looks then (fail r.channel .cancelled, [])
    else finishNoted cancelAt { r with looks := r.looks + 1 }
  | read :: body =>
    if seesCancel cancelAt r.looks then (fail r.channel .cancelled, [])
    else
      match read with
      | .silence => (fail r.channel .cancelled, [])
      | .failure text => (fail r.channel (.transport text), [])
      | .chunk bytes =>
        let (buffer, lines) := r.buffer.push bytes
        match feedLinesNoted cancelAt { r with buffer, looks := r.looks + 1 } lines with
        | (.error channel, calls) => (channel, calls)
        | (.ok r, calls) =>
          let (channel, more) := readsNoted cancelAt r body
          (channel, calls ++ more)

theorem feedLinesNoted_fst (cancelAt : CancelAt) (r : Run n) (lines : List String) :
    (feedLinesNoted cancelAt r lines).1 = feedLines cancelAt r lines := by
  induction lines generalizing r with
  | nil => rfl
  | cons line lines ih =>
    rw [feedLinesNoted, feedLines]
    split
    · rfl
    · rcases hemit : r.channel.emitAll (n.onLine r.state line).2 with ⟨more, channel⟩
      cases more with
      | false => simp only [hemit]
      | true => simp only [hemit, ih]

theorem finishNoted_fst (cancelAt : CancelAt) (r : Run n) :
    (finishNoted cancelAt r).1 = finish cancelAt r := by
  rw [finishNoted, finish, ← feedLinesNoted_fst]
  rcases feedLinesNoted cancelAt r r.buffer.finish.2.toList with ⟨result, calls⟩
  cases result <;> rfl

/-- **Notes change nothing.** -/
theorem readsNoted_fst (cancelAt : CancelAt) (r : Run n) (body : Body) :
    (readsNoted cancelAt r body).1 = reads cancelAt r body := by
  induction body generalizing r with
  | nil =>
    rw [readsNoted, reads]
    split
    · rfl
    · exact finishNoted_fst cancelAt _
  | cons read body ih =>
    cases read with
    | silence =>
      rw [readsNoted, reads]
      split <;> rfl
    | failure text =>
      rw [readsNoted, reads]
      split <;> rfl
    | chunk bytes =>
      rw [readsNoted, reads]
      split
      · rfl
      · simp only [← feedLinesNoted_fst]
        rcases feedLinesNoted cancelAt
          { r with buffer := (r.buffer.push bytes).1, looks := r.looks + 1 }
          (r.buffer.push bytes).2 with ⟨result, calls⟩
        cases result with
        | error channel => rfl
        | ok r' => exact ih r'

/-! ## What is asked -/

/-- Lines asked about, where none of them ends the stream: those before the
look that sees cancellation, or all. -/
theorem feedLinesNoted_eq (r : Run n) (h : r.channel.IsOpen) (lines : List String)
    (hq : Quiet (n.feed r.state (heed cancelAt r.looks (lines.map some)).1).2.flatten) :
    if (heed cancelAt r.looks (lines.map some)).2 then
      ∃ c, feedLinesNoted cancelAt r lines =
        (.error c, (heed cancelAt r.looks (lines.map some)).1.map .line)
    else
      ∃ c, c.IsOpen ∧ feedLinesNoted cancelAt r lines =
        (.ok ⟨(n.feed r.state lines).1, r.buffer, c, r.looks + lines.length⟩,
          lines.map .line) := by
  induction lines generalizing r with
  | nil => exact ⟨r.channel, h, rfl⟩
  | cons line lines ih =>
    rw [List.map_cons] at hq ⊢
    by_cases hsees : seesCancel cancelAt r.looks = true
    · rw [heed_cons_of_sees hsees, feedLinesNoted, if_pos hsees]
      exact ⟨_, rfl⟩
    · rw [heed_cons hsees] at hq ⊢
      obtain ⟨hline, hlines⟩ := quiet_append.mp hq
      rcases Channel.emitAll_of_isOpen h (n.onLine r.state line).2 with
        ⟨d, hd, hopen, -, -⟩ | ⟨d, hd, hnot, -⟩
      · have hrest := ih ⟨(n.onLine r.state line).1, r.buffer, d, r.looks + 1⟩ hopen hlines
        have hlooks : r.looks + 1 + lines.length = r.looks + (line :: lines).length := by
          rw [List.length_cons]
          omega
        rw [feedLinesNoted, if_neg hsees]
        simp only [hd]
        split at hrest
        · rename_i hseen
          obtain ⟨c, hc⟩ := hrest
          rw [if_pos hseen, hc]
          exact ⟨c, rfl⟩
        · rename_i hseen
          obtain ⟨c, hc, hfed⟩ := hrest
          rw [if_neg hseen, hfed, hlooks]
          exact ⟨c, hc, rfl⟩
      · exact absurd hline hnot

/-- **What a disturbed pump asks**, where no line has ended the stream:
about the lines fed, and not about the end. -/
theorem readsNoted_snd (r : Run n) (h : r.channel.IsOpen) (body : Body)
    (hq : Quiet (n.feed r.state (heed cancelAt r.looks (looksAt r.buffer body)).1).2.flatten)
    (hdisturbed : (heed cancelAt r.looks (looksAt r.buffer body)).2 = true ∨
      body.fault? ≠ none) :
    (readsNoted cancelAt r body).2 =
      (heed cancelAt r.looks (looksAt r.buffer body)).1.map .line := by
  -- no line fed ends the stream, so the channel stays open from read to read
  induction body generalizing r with
  | nil =>
    by_cases hsees : seesCancel cancelAt r.looks = true
    · rw [readsNoted, if_pos hsees, looksAt, heed_cons_of_sees hsees]
      rfl
    · rw [looksAt, heed_cons hsees] at hq hdisturbed ⊢
      -- the body ends, so it is a look that disturbs: the one before its last line
      have hseen := hdisturbed.resolve_right (not_not_intro rfl)
      have hfed := feedLinesNoted_eq ⟨r.state, r.buffer, r.channel, r.looks + 1⟩ h
        r.buffer.finish.2.toList hq
      rw [if_pos hseen] at hfed
      obtain ⟨c, hc⟩ := hfed
      rw [readsNoted, if_neg hsees, finishNoted, hc]
      rfl
  | cons read body ih =>
    by_cases hsees : seesCancel cancelAt r.looks = true
    · cases read <;> rw [readsNoted, if_pos hsees, looksAt, heed_cons_of_sees hsees] <;> rfl
    · cases read with
      | chunk bytes =>
        rw [looksAt, heed_cons hsees, heed_append] at hq hdisturbed ⊢
        have hfed := @feedLinesNoted_eq n cancelAt
          ⟨r.state, (r.buffer.push bytes).1, r.channel, r.looks + 1⟩ h (r.buffer.push bytes).2
        rw [readsNoted, if_neg hsees]
        by_cases hlines : (heed cancelAt (r.looks + 1) ((r.buffer.push bytes).2.map some)).2 = true
        · rw [if_pos hlines] at hq ⊢
          rw [if_pos hlines] at hfed
          obtain ⟨c, hc⟩ := hfed hq
          simp only [hc]
          rfl
        · rw [if_neg hlines] at hq hdisturbed ⊢
          have hall := heed_lines_of_not_seen hlines
          rw [if_neg hlines, hall] at hfed
          rw [hall, List.length_map] at hq ⊢
          rw [List.length_map] at hdisturbed
          simp only [Option.toList_none, List.nil_append, n.feed_append,
            List.flatten_append] at hq ⊢
          obtain ⟨hnow, hlater⟩ := quiet_append.mp hq
          obtain ⟨c, hopen, hc⟩ := hfed hnow
          have hrest := ih ⟨(n.feed r.state (r.buffer.push bytes).2).1, (r.buffer.push bytes).1, c,
            r.looks + 1 + (r.buffer.push bytes).2.length⟩ hopen hlater hdisturbed
          simp only [hc, hrest]
          exact List.map_append.symm
      | failure text =>
        rw [readsNoted, if_neg hsees, looksAt, heed_cons hsees]
        rfl
      | silence =>
        rw [readsNoted, if_neg hsees, looksAt, heed_cons hsees]
        rfl

/-- A pump with a connected consumer, and what it asks its normalizer. -/
def noted (n : Normalizer) (cancelAt : CancelAt) (body : Body) : Channel × List Call :=
  readsNoted cancelAt (.start n .start) body

theorem noted_fst (n : Normalizer) (cancelAt : CancelAt) (body : Body) :
    (noted n cancelAt body).1 = pump n .start cancelAt body :=
  readsNoted_fst cancelAt (.start n .start) body

end Pump

end Turnstile
