import Turnstile.Stream.Pump
/-!
# The script of a pump

What a pump sends, had it a channel that takes everything: the script is
read off the body, the normalizer and the moment of cancellation alone,
and it goes on where a terminal event would have closed the channel. What
a connected consumer receives is the script up to its first terminal
event (`accepted_reads`), so a property of streams is a property of
scripts, and no channel appears in its proof.
-/

namespace Turnstile

namespace ChatEvent

/-- None of the events ends its stream. -/
def Quiet (es : List ChatEvent) : Prop := ∀ e ∈ es, e.isTerminal = false

theorem quiet_nil : Quiet [] := by
  intro e he
  cases he

theorem quiet_cons {e : ChatEvent} {es : List ChatEvent} :
    Quiet (e :: es) ↔ e.isTerminal = false ∧ Quiet es :=
  List.forall_mem_cons

theorem quiet_append {es fs : List ChatEvent} : Quiet (es ++ fs) ↔ Quiet es ∧ Quiet fs :=
  List.forall_mem_append

/-- What comes after events that do not end the stream is cut by itself. -/
theorem untilTerminal_append_of_quiet {es : List ChatEvent} (h : Quiet es) (fs : List ChatEvent) :
    untilTerminal (es ++ fs) = es ++ untilTerminal fs := by
  induction es with
  | nil => rfl
  | cons e es ih =>
    obtain ⟨he, hes⟩ := quiet_cons.mp h
    rw [List.cons_append, untilTerminal, he, ih hes]
    rfl

/-- What comes after a terminal event is cut off. -/
theorem untilTerminal_append_of_not_quiet {es : List ChatEvent} (h : ¬ Quiet es)
    (fs : List ChatEvent) : untilTerminal (es ++ fs) = untilTerminal es := by
  induction es with
  | nil => exact absurd quiet_nil h
  | cons e es ih =>
    rw [List.cons_append, untilTerminal, untilTerminal]
    by_cases he : e.isTerminal = true
    · rw [if_pos he, if_pos he]
    · rw [if_neg he, if_neg he, ih fun hes => h (quiet_cons.mpr ⟨by simpa using he, hes⟩)]

end ChatEvent

open ChatEvent

namespace Channel

variable {c : Channel}

/-- The producer may send and somebody listens. -/
def IsOpen (c : Channel) : Prop := c.producing = true ∧ c.consuming = true

theorem isOpen_start : start.IsOpen := ⟨rfl, rfl⟩

theorem isClosed_of_isOpen (h : c.IsOpen) : c.isClosed = false := by
  rw [isClosed, h.1, h.2]
  rfl

/-- An open channel with room takes an event at once. -/
theorem emit?_of_isOpen (h : c.IsOpen) (hroom : c.queue.length < capacity) (e : ChatEvent) :
    ∃ d, c.emit? e = some (!e.isTerminal, d) ∧ d.accepted = c.accepted ++ [e] ∧
      (e.isTerminal = false → d.IsOpen) := by
  obtain ⟨hp, hc⟩ := h
  refine ⟨{ c with queue := c.queue ++ [e], producing := !e.isTerminal }, ?_, ?_, fun he => ?_⟩
  · rw [emit?, if_neg (by simp [hp]), if_neg (by simp [hc]), if_neg (by omega)]
  · simp [accepted]
  · exact ⟨by simp [he], hc⟩

/-- **An open channel accepts what is emitted**, and stays open unless
that ends the stream. -/
theorem emit_of_isOpen (h : c.IsOpen) (e : ChatEvent) :
    ∃ d, c.emit e = (!e.isTerminal, d) ∧ d.accepted = c.accepted ++ [e] ∧
      (e.isTerminal = false → d.IsOpen) := by
  by_cases hroom : c.queue.length < capacity
  · obtain ⟨d, hd, hrest⟩ := emit?_of_isOpen h hroom e
    exact ⟨d, by rw [emit, hd], hrest⟩
  · -- the queue is full: the consumer, being there, takes what waits
    have hfull : c.emit? e = none := by
      rw [emit?, if_neg (by simp [h.1]), if_neg (by simp [h.2]), if_pos (by omega)]
    have hdrain : c.drain.IsOpen ∧ c.drain.queue.length < capacity := by
      rw [drain, if_pos h.2]
      exact ⟨⟨h.1, h.2⟩, Nat.zero_lt_succ _⟩
    obtain ⟨d, hd, hacc, hopen⟩ := emit?_of_isOpen hdrain.1 hdrain.2 e
    refine ⟨d, ?_, ?_, hopen⟩
    · rw [emit, hfull, hd]
      rfl
    · rw [hacc, accepted_drain]

/-- **Events emitted in turn are accepted up to the first terminal one**,
and the channel stays open if there is none. -/
theorem emitAll_of_isOpen (h : c.IsOpen) (es : List ChatEvent) :
    (∃ d, c.emitAll es = (true, d) ∧ d.IsOpen ∧ Quiet es ∧ d.accepted = c.accepted ++ es) ∨
      ∃ d, c.emitAll es = (false, d) ∧ ¬ Quiet es ∧
        d.accepted = c.accepted ++ untilTerminal es := by
  induction es generalizing c with
  | nil => exact Or.inl ⟨c, rfl, h, quiet_nil, (List.append_nil _).symm⟩
  | cons e es ih =>
    obtain ⟨d, hd, hacc, hopen⟩ := emit_of_isOpen h e
    rw [emitAll, hd]
    by_cases he : e.isTerminal = true
    · refine Or.inr ⟨d, by rw [he]; rfl, fun hq => ?_, ?_⟩
      · rw [(quiet_cons.mp hq).1] at he
        cases he
      · rw [hacc, untilTerminal, if_pos he]
    · have he : e.isTerminal = false := by simpa using he
      rw [he]
      rcases ih (hopen he) with ⟨d', hd', hopen', hq, hacc'⟩ | ⟨d', hd', hq, hacc'⟩
      · refine Or.inl ⟨d', hd', hopen', quiet_cons.mpr ⟨he, hq⟩, ?_⟩
        rw [hacc', hacc, List.append_assoc, List.singleton_append]
      · refine Or.inr ⟨d', hd', fun hes => hq (quiet_cons.mp hes).2, ?_⟩
        rw [hacc', hacc, List.append_assoc, List.singleton_append, untilTerminal, he]
        rfl

/-- A failure sent into an open channel is accepted. -/
theorem accepted_fail (h : c.IsOpen) (cause : StreamError) :
    (Pump.fail c cause).accepted = c.accepted ++ untilTerminal [.error cause] := by
  obtain ⟨d, hd, hacc, -⟩ := emit_of_isOpen h (.error cause)
  rw [Pump.fail, hd, hacc]
  rfl

/-- The last events are accepted with a report of nothing after them, up
to the first terminal one. -/
theorem accepted_conclude (h : c.IsOpen) (es : List ChatEvent) :
    (Pump.conclude c es).accepted = c.accepted ++ untilTerminal (es ++ [.done .zero]) := by
  rw [Pump.conclude]
  rcases emitAll_of_isOpen h es with ⟨d, hd, hopen, hq, hacc⟩ | ⟨d, hd, hq, hacc⟩
  · obtain ⟨d', hd', hacc', -⟩ := emit_of_isOpen hopen (.done .zero)
    rw [hd, untilTerminal_append_of_quiet hq, ← List.append_assoc, ← hacc]
    simp only [isClosed_of_isOpen hopen, hd']
    exact hacc'
  · rw [hd, untilTerminal_append_of_not_quiet hq, hacc]

end Channel

namespace Pump

variable {n : Normalizer} {cancelAt : CancelAt}

/-- The script of lines: what is sent for them, and the state after the
last one unless cancellation is seen before it. -/
def lineScript (n : Normalizer) (cancelAt : CancelAt) (looks : Nat) (s : n.State) :
    List String → List ChatEvent × Option n.State
  | [] => ([], some s)
  | line :: lines =>
    if seesCancel cancelAt looks then ([.error .cancelled], none)
    else
      let (s, events) := n.onLine s line
      let (rest, final) := lineScript n cancelAt (looks + 1) s lines
      (events ++ rest, final)

/-- What follows the script of lines, if they were all fed. -/
def followedBy (script : List ChatEvent × Option n.State) (next : n.State → List ChatEvent) :
    List ChatEvent :=
  script.1 ++ script.2.elim [] next

/-- The script of the end of a body: what is left of a line, and what the
normalizer answers to the end. -/
def endScript (n : Normalizer) (cancelAt : CancelAt) (looks : Nat) (s : n.State)
    (buffer : LineBuffer) : List ChatEvent :=
  followedBy (lineScript n cancelAt looks s buffer.finish.2.toList) fun s =>
    n.onEnd s ++ [.done .zero]

/-- The script of a body. -/
def script (n : Normalizer) (cancelAt : CancelAt) (looks : Nat) (s : n.State)
    (buffer : LineBuffer) : Body → List ChatEvent
  | [] =>
    if seesCancel cancelAt looks then [.error .cancelled]
    else endScript n cancelAt (looks + 1) s buffer
  | read :: body =>
    if seesCancel cancelAt looks then [.error .cancelled]
    else
      match read with
      | .silence => [.error .cancelled]
      | .failure text => [.error (.transport text)]
      | .chunk bytes =>
        let (buffer, lines) := buffer.push bytes
        followedBy (lineScript n cancelAt (looks + 1) s lines) fun s =>
          script n cancelAt (looks + 1 + lines.length) s buffer body

/-- Lines after which nothing is fed have ended the stream. -/
theorem not_quiet_of_lineScript {looks : Nat} {s : n.State} {lines : List String}
    (h : (lineScript n cancelAt looks s lines).2 = none) :
    ¬ Quiet (lineScript n cancelAt looks s lines).1 := by
  induction lines generalizing looks s with
  | nil => cases h
  | cons line lines ih =>
    rw [lineScript] at h ⊢
    split at h
    · rename_i hsees
      rw [if_pos hsees]
      intro hq
      cases (quiet_cons.mp hq).1
    · rename_i hsees
      rw [if_neg hsees]
      exact fun hq => ih h (quiet_append.mp hq).2

/-- **Feeding lines follows their script**: either nothing in it ends the
stream and the pump goes on with all of it accepted, or it is accepted up
to the event that does, and the pump has stopped. -/
theorem feedLines_of_lineScript (r : Run n) (h : r.channel.IsOpen) {lines : List String}
    {es : List ChatEvent} {final : Option n.State}
    (hs : lineScript n cancelAt r.looks r.state lines = (es, final)) :
    (∃ s c, feedLines cancelAt r lines =
        .ok { r with state := s, channel := c, looks := r.looks + lines.length } ∧
      final = some s ∧ c.IsOpen ∧ Quiet es ∧ c.accepted = r.channel.accepted ++ es) ∨
    ∃ c, feedLines cancelAt r lines = .error c ∧ ¬ Quiet es ∧
      c.accepted = r.channel.accepted ++ untilTerminal es := by
  induction lines generalizing r es final with
  | nil =>
    obtain ⟨rfl, rfl⟩ := Prod.mk.inj hs
    exact Or.inl ⟨r.state, r.channel, rfl, rfl, h, quiet_nil, (List.append_nil _).symm⟩
  | cons line lines ih =>
    rw [lineScript] at hs
    rw [feedLines]
    by_cases hsees : seesCancel cancelAt r.looks = true
    · rw [if_pos hsees] at hs ⊢
      obtain ⟨rfl, rfl⟩ := Prod.mk.inj hs
      refine Or.inr ⟨_, rfl, fun hq => ?_, r.channel.accepted_fail h .cancelled⟩
      cases (quiet_cons.mp hq).1
    · rw [if_neg hsees] at hs ⊢
      obtain ⟨rfl, rfl⟩ := Prod.mk.inj hs
      rcases Channel.emitAll_of_isOpen h (n.onLine r.state line).2 with
        ⟨d, hd, hopen, hq, hacc⟩ | ⟨d, hd, hq, hacc⟩
      · -- the line's events are through: go on with the lines after it
        rcases ih { r with state := (n.onLine r.state line).1, channel := d, looks := r.looks + 1 }
            hopen rfl with ⟨s, c, hfeed, hfinal, hopen', hq', hacc'⟩ | ⟨c, hfeed, hq', hacc'⟩
        · refine Or.inl ⟨s, c, ?_, hfinal, hopen', quiet_append.mpr ⟨hq, hq'⟩, ?_⟩
          · simp only [hd, hfeed, List.length_cons]
            congr 2
            omega
          · rw [hacc', hacc, List.append_assoc]
        · refine Or.inr ⟨c, ?_, fun hes => hq' (quiet_append.mp hes).2, ?_⟩
          · simp only [hd, hfeed]
          · rw [hacc', hacc, List.append_assoc, untilTerminal_append_of_quiet hq]
      · refine Or.inr ⟨d, ?_, fun hes => hq (quiet_append.mp hes).1, ?_⟩
        · simp only [hd]
        · rw [hacc, untilTerminal_append_of_not_quiet hq]

/-- **What is fed and what follows it is accepted** up to the first
terminal event, if what follows is accepted that way. -/
theorem accepted_followedBy (r : Run n) (h : r.channel.IsOpen) (lines : List String)
    {after : Run n → Channel} {next : n.State → List ChatEvent}
    (hafter : ∀ s c, c.IsOpen →
      (after { r with state := s, channel := c, looks := r.looks + lines.length }).accepted =
        c.accepted ++ untilTerminal (next s)) :
    (match feedLines cancelAt r lines with
      | .error c => c
      | .ok r => after r).accepted =
      r.channel.accepted ++
        untilTerminal (followedBy (lineScript n cancelAt r.looks r.state lines) next) := by
  rcases hs : lineScript n cancelAt r.looks r.state lines with ⟨es, final⟩
  rw [followedBy]
  rcases feedLines_of_lineScript r h hs with
    ⟨s, c, hfeed, rfl, hopen, hq, hacc⟩ | ⟨c, hfeed, hq, hacc⟩
  · rw [hfeed, untilTerminal_append_of_quiet hq, ← List.append_assoc, ← hacc]
    exact hafter s c hopen
  · rw [hfeed, untilTerminal_append_of_not_quiet hq]
    exact hacc

/-- The end of a body follows its script. -/
theorem accepted_finish (r : Run n) (h : r.channel.IsOpen) :
    (finish cancelAt r).accepted =
      r.channel.accepted ++ untilTerminal (endScript n cancelAt r.looks r.state r.buffer) :=
  accepted_followedBy r h r.buffer.finish.2.toList fun s _ hopen =>
    Channel.accepted_conclude hopen (n.onEnd s)

/-- **What a pump sends into an open channel is its script**, up to the
first terminal event in it. -/
theorem accepted_reads (r : Run n) (h : r.channel.IsOpen) (body : Body) :
    (reads cancelAt r body).accepted =
      r.channel.accepted ++ untilTerminal (script n cancelAt r.looks r.state r.buffer body) := by
  induction body generalizing r with
  | nil =>
    rw [reads, script]
    split
    · exact Channel.accepted_fail h .cancelled
    · exact accepted_finish { r with looks := r.looks + 1 } h
  | cons read body ih =>
    cases read with
    | silence =>
      rw [reads, script]
      split <;> exact Channel.accepted_fail h .cancelled
    | failure text =>
      rw [reads, script]
      split
      · exact Channel.accepted_fail h .cancelled
      · exact Channel.accepted_fail h (.transport text)
    | chunk bytes =>
      rw [reads, script]
      split
      · exact Channel.accepted_fail h .cancelled
      · exact accepted_followedBy
          { r with buffer := (r.buffer.push bytes).1, looks := r.looks + 1 } h
          (r.buffer.push bytes).2 fun s c hopen => ih _ hopen

end Pump

/-- What a connected consumer receives of a pump is its script up to the
first terminal event. -/
theorem pumpEvents_eq (n : Normalizer) (cancelAt : CancelAt) (body : Body) :
    pumpEvents n cancelAt body =
      untilTerminal (Pump.script n cancelAt 0 n.start .empty body) := by
  rw [pumpEvents, pump, Pump.accepted_reads (.start n .start) Channel.isOpen_start]
  rfl

/-- What a connected consumer receives of a response decoded at once: the
events or the failure, and a report of nothing after them, up to the first
terminal event. -/
theorem accepted_replay (decoded : Except StreamError (List ChatEvent)) :
    (replay .start decoded).accepted =
      match decoded with
      | .ok events => untilTerminal (events ++ [.done .zero])
      | .error cause => untilTerminal [.error cause, .done .zero] := by
  cases decoded with
  | ok events => exact Channel.accepted_conclude Channel.isOpen_start events
  | error cause => exact Channel.accepted_conclude Channel.isOpen_start [.error cause]

end Turnstile
