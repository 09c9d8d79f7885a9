import Turnstile.Proofs.Stream.Collecting
import Mathlib.Data.List.ReduceOption
/-!
# Sessions — the two sides of a channel, in any order

A session is a channel with a producer that has events to emit and a
consumer that receives, and its moves are what either side can do next.
The books of a session (`Balanced`) are kept by every move
(`exists_balanced_move`) and so by every schedule (`exists_balanced_run`);
what either side observes is read off them. `sent` is the account between
the two: what the producer was told of an event is settled by whether it
is in there, and so is what the consumer finds.
-/

namespace Turnstile

namespace ChatEvent

/-- A stream that has ended is not added to. -/
theorem untilTerminal_append_of_endsOnce {es : List ChatEvent} (h : EndsOnce es)
    (fs : List ChatEvent) : untilTerminal (es ++ fs) = es := by
  obtain ⟨before, last, rfl, hq, hlast⟩ := h
  rw [untilTerminal_append_of_not_quiet (not_quiet_append_singleton before hlast),
    untilTerminal_append_of_quiet hq, untilTerminal, if_pos hlast]

end ChatEvent

open ChatEvent

namespace Channel

variable {c d : Channel} {e : ChatEvent}

/-- The producer goes away. -/
def hangUp (c : Channel) : Channel := { c with producing := false }

/-- The consumer asks for the next event. `none` means that it has to
wait; otherwise it is given the event, or told that none will come. -/
def receive? (c : Channel) : Option (Option ChatEvent × Channel) :=
  match c.take? with
  | some (e, d) => some (some e, d)
  | none => if c.consuming && !c.producing then some (none, c) else none

/-- **What an emission can do**: the event goes to the end of the queue,
or a side is gone and nothing changes but that the producer knows. -/
theorem emit?_cases {more : Bool} (h : c.emit? e = some (more, d)) :
    (c.IsOpen ∧ c.queue.length < capacity ∧ more = !e.isTerminal ∧
        d = { c with queue := c.queue ++ [e], producing := !e.isTerminal }) ∨
      ((c.producing = false ∨ c.consuming = false) ∧ more = false ∧ d = c.hangUp) := by
  rw [emit?] at h
  by_cases hp : c.producing = true
  · rw [if_neg (by simp [hp])] at h
    by_cases hc : c.consuming = true
    · rw [if_neg (by simp [hc])] at h
      split at h
      · cases h
      · rename_i hroom
        obtain ⟨rfl, rfl⟩ := Prod.mk.inj (Option.some.inj h)
        exact Or.inl ⟨⟨hp, hc⟩, by omega, rfl, rfl⟩
    · have hc : c.consuming = false := by simpa using hc
      rw [if_pos (by simp [hc])] at h
      obtain ⟨rfl, rfl⟩ := Prod.mk.inj (Option.some.inj h)
      exact Or.inr ⟨Or.inr hc, rfl, rfl⟩
  · have hp : c.producing = false := by simpa using hp
    rw [if_pos (by simp [hp])] at h
    obtain ⟨rfl, rfl⟩ := Prod.mk.inj (Option.some.inj h)
    refine Or.inr ⟨Or.inl hp, rfl, ?_⟩
    rw [hangUp, ← hp]

/-- **A producer waits for one reason**: both sides are there and the
queue is full. -/
theorem emit?_eq_none_iff : c.emit? e = none ↔ c.IsOpen ∧ capacity ≤ c.queue.length := by
  refine ⟨fun h => ?_, fun ⟨⟨hp, hc⟩, hfull⟩ => ?_⟩
  · rw [emit?] at h
    split at h
    · cases h
    · rename_i hp
      split at h
      · cases h
      · rename_i hc
        split at h
        · rename_i hfull
          exact ⟨⟨by simpa using hp, by simpa using hc⟩, hfull⟩
        · cases h
  · rw [emit?, if_neg (by simp [hp]), if_neg (by simp [hc]), if_pos hfull]

/-- **What a request for an event can do**: the first event that waits is
handed over, or there is none and the producer is gone. -/
theorem receive?_cases {x : Option ChatEvent} (h : c.receive? = some (x, d)) :
    c.consuming = true ∧
      ((∃ e rest, c.queue = e :: rest ∧ x = some e ∧
          d = { c with queue := rest, taken := c.taken ++ [e] }) ∨
        (c.queue = [] ∧ c.producing = false ∧ x = none ∧ d = c)) := by
  rw [receive?, take?] at h
  cases hc : c.consuming with
  | false => simp [hc] at h
  | true =>
    refine ⟨rfl, ?_⟩
    cases hq : c.queue with
    | cons e rest =>
      simp only [hc, hq] at h
      obtain ⟨rfl, rfl⟩ := Prod.mk.inj (Option.some.inj h)
      exact Or.inl ⟨e, rest, rfl, rfl, rfl⟩
    | nil =>
      simp only [hc, hq, Bool.true_and] at h
      split at h
      · rename_i hp
        obtain ⟨rfl, rfl⟩ := Prod.mk.inj (Option.some.inj h)
        exact Or.inr ⟨rfl, by simpa using hp, rfl, rfl⟩
      · cases h

end Channel

/-- What one of the two sides does next. -/
inductive Move where
  /-- The producer emits its next event, or goes on waiting with it. -/
  | emit
  /-- The producer goes away. -/
  | hangUp
  /-- The consumer receives, or goes on waiting. -/
  | receive
  /-- The consumer goes away. -/
  | leave
  deriving DecidableEq, Repr

/-- A channel in use. -/
structure Session where
  channel : Channel
  /-- Events to be emitted, that of the call at hand first. -/
  pending : List ChatEvent
  /-- Emissions that have returned, with their answers. -/
  returned : List (ChatEvent × Bool)
  /-- Events the channel has taken in. -/
  sent : List ChatEvent
  /-- What the consumer was given; `none` is the news that the channel has
  closed. -/
  heard : List (Option ChatEvent)

namespace Session

open Channel

/-- Nothing has happened; these events are to be emitted. -/
def start (es : List ChatEvent) : Session := ⟨.start, es, [], [], []⟩

/-- The events whose emission has returned. -/
def emitted (s : Session) : List ChatEvent := s.returned.map (·.1)

/-- One move. A side that has to wait does not change anything. -/
def move (s : Session) : Move → Session
  | .emit =>
    match s.pending with
    | [] => s
    | e :: rest =>
      match s.channel.emit? e with
      | none => s
      | some (more, d) =>
        { s with
          channel := d, pending := rest, returned := s.returned ++ [(e, more)]
          sent := s.sent ++ d.accepted.drop s.channel.accepted.length }
  | .hangUp => { s with channel := s.channel.hangUp, pending := [] }
  | .receive =>
    match s.channel.receive? with
    | none => s
    | some (x, d) => { s with channel := d, heard := s.heard ++ [x] }
  | .leave => { s with channel := s.channel.leave }

/-- Moves in turn. -/
def run (s : Session) (moves : List Move) : Session := moves.foldl move s

/-- What a consumer that collects has returned, if it has: it stops at a
terminal event, or at the news that the channel has closed. -/
def collected? (s : Session) : Option (Except StreamError ChatTurn) :=
  if s.heard.any (Option.all ChatEvent.isTerminal) then
    some (ChatTurn.collect s.heard.reduceOption)
  else none

variable {s : Session} {e : ChatEvent} {rest refused : List ChatEvent} {closings : Nat}

/-! ## The books -/

/-- The books of a session: which emissions were refused, and how often
the consumer was told that the channel has closed. -/
structure Balanced (s : Session) (refused : List ChatEvent) (closings : Nat) : Prop where
  returned : s.returned =
    s.sent.map (fun e => (e, !e.isTerminal)) ++ refused.map fun e => (e, false)
  /-- Nothing was sent after a terminal event. -/
  ending : Quiet s.sent ∨ EndsOnce s.sent
  quiet : s.channel.producing = true → Quiet s.sent ∧ refused = []
  /-- A producer is refused because it has ended the stream, or because
  nobody listens. -/
  refusal : refused ≠ [] → EndsOnce s.sent ∨ s.channel.consuming = false
  finished : s.channel.producing = false → s.channel.consuming = true →
    EndsOnce s.sent ∨ s.pending = []
  kept : s.channel.consuming = true → s.sent = s.channel.taken ++ s.channel.queue
  left : s.channel.consuming = false → s.channel.queue = []
  taken : s.channel.taken <+: s.sent
  bounded : s.channel.queue.length ≤ capacity
  heard : s.heard = s.channel.taken.map some ++ List.replicate closings none
  /-- Who was told of the closing has all that was sent. -/
  closed : closings ≠ 0 → s.channel.producing = false ∧ s.channel.taken = s.sent ∧
    (EndsOnce s.sent ∨ s.pending = [] ∧ refused = [])

theorem balanced_start (es : List ChatEvent) : Balanced (start es) [] 0 where
  returned := rfl
  ending := Or.inl quiet_nil
  quiet _ := ⟨quiet_nil, rfl⟩
  refusal h := absurd rfl h
  finished h := by cases h
  kept _ := rfl
  left h := by cases h
  taken := List.nil_prefix
  bounded := Nat.zero_le _
  heard := rfl
  closed h := absurd rfl h

/-- An emission that the channel takes in. -/
theorem Balanced.sends (h : Balanced s refused closings) (hopen : s.channel.IsOpen)
    (hroom : s.channel.queue.length < capacity) (e : ChatEvent) (rest : List ChatEvent) :
    Balanced { s with
      channel := { s.channel with queue := s.channel.queue ++ [e], producing := !e.isTerminal }
      pending := rest, returned := s.returned ++ [(e, !e.isTerminal)], sent := s.sent ++ [e] }
      [] closings := by
  obtain ⟨hp, hc⟩ := hopen
  obtain ⟨hquiet, rfl⟩ := h.quiet hp
  have hends : (!e.isTerminal) = false → EndsOnce (s.sent ++ [e]) := fun he =>
    ⟨s.sent, e, rfl, hquiet, by simpa using he⟩
  have hgoes : (!e.isTerminal) = true → Quiet (s.sent ++ [e]) := fun he =>
    quiet_append.mpr ⟨hquiet, quiet_cons.mpr ⟨by simpa using he, quiet_nil⟩⟩
  exact {
    returned := by
      have hreturned := h.returned
      rw [List.map_nil, List.append_nil] at hreturned
      rw [hreturned, List.map_append, List.map_nil, List.append_nil]
      rfl
    ending := by
      cases he : e.isTerminal with
      | true => exact Or.inr (hends (by rw [he]; rfl))
      | false => exact Or.inl (hgoes (by rw [he]; rfl))
    quiet := fun hgo => ⟨hgoes hgo, rfl⟩
    refusal := fun hne => absurd rfl hne
    finished := fun hstop _ => Or.inl (hends hstop)
    kept := fun _ => by rw [h.kept hc, List.append_assoc]
    left := fun hleft => absurd (hc.symm.trans hleft) (by decide)
    taken := h.taken.trans (List.prefix_append _ _)
    bounded := by
      rw [List.length_append, List.length_singleton]
      omega
    heard := h.heard
    closed := fun hclosed => absurd (hp.symm.trans (h.closed hclosed).1) (by decide) }

/-- An emission that is refused. -/
theorem Balanced.refuses (h : Balanced s refused closings)
    (hgone : s.channel.producing = false ∨ s.channel.consuming = false)
    (hpending : s.pending = e :: rest) :
    Balanced { s with
      channel := s.channel.hangUp, pending := rest, returned := s.returned ++ [(e, false)] }
      (refused ++ [e]) closings := by
  -- a producer that still has something to emit did not just go away
  have hwhy : EndsOnce s.sent ∨ s.channel.consuming = false := by
    by_cases hc : s.channel.consuming = true
    · have hp : s.channel.producing = false := hgone.resolve_right (by rw [hc]; decide)
      rcases h.finished hp hc with hends | hnone
      · exact Or.inl hends
      · rw [hpending] at hnone
        cases hnone
    · exact Or.inr (by simpa using hc)
  exact {
    returned := by rw [h.returned, List.map_append, ← List.append_assoc]; rfl
    ending := h.ending
    quiet := fun hgo => by cases hgo
    refusal := fun _ => hwhy
    finished := fun _ hc => by
      have hhere : s.channel.consuming = true := hc
      exact Or.inl (hwhy.resolve_right (by simp [hhere]))
    kept := h.kept
    left := h.left
    taken := h.taken
    bounded := h.bounded
    heard := h.heard
    closed := fun hclosed => by
      obtain ⟨-, htaken, hend⟩ := h.closed hclosed
      refine ⟨rfl, htaken, Or.inl (hend.resolve_right fun hnone => ?_)⟩
      rw [hpending] at hnone
      cases hnone.1 }

/-- The producer goes away. -/
theorem Balanced.hangsUp (h : Balanced s refused closings) :
    Balanced { s with channel := s.channel.hangUp, pending := [] } refused closings where
  returned := h.returned
  ending := h.ending
  quiet hgo := by cases hgo
  refusal := h.refusal
  finished _ _ := Or.inr rfl
  kept := h.kept
  left := h.left
  taken := h.taken
  bounded := h.bounded
  heard := h.heard
  closed hclosed := by
    obtain ⟨-, htaken, hend⟩ := h.closed hclosed
    exact ⟨rfl, htaken, hend.imp_right fun hnone => ⟨rfl, hnone.2⟩⟩

/-- The consumer is given an event. -/
theorem Balanced.receives (h : Balanced s refused closings) (hc : s.channel.consuming = true)
    (hqueue : s.channel.queue = e :: rest) :
    Balanced { s with
      channel := { s.channel with queue := rest, taken := s.channel.taken ++ [e] }
      heard := s.heard ++ [some e] } refused closings := by
  have hkept : s.sent = s.channel.taken ++ [e] ++ rest := by
    rw [h.kept hc, hqueue, List.append_assoc, List.singleton_append]
  -- who has all that was sent is not given anything more
  have hnone : closings = 0 := by
    by_contra hclosed
    have htaken := (h.closed hclosed).2.1
    have hlength := congrArg List.length (htaken.trans (h.kept hc))
    rw [hqueue, List.length_append, List.length_cons] at hlength
    omega
  subst hnone
  exact {
    returned := h.returned
    ending := h.ending
    quiet := h.quiet
    refusal := h.refusal
    finished := h.finished
    kept := fun _ => hkept
    left := fun hleft => absurd (hc.symm.trans hleft) (by decide)
    taken := ⟨rest, hkept.symm⟩
    bounded := by
      have hbounded := h.bounded
      rw [hqueue, List.length_cons] at hbounded
      change rest.length ≤ capacity
      omega
    heard := by
      rw [h.heard, List.map_append]
      simp
    closed := fun hclosed => absurd rfl hclosed }

/-- The consumer is told that the channel has closed. -/
theorem Balanced.closes (h : Balanced s refused closings) (hc : s.channel.consuming = true)
    (hp : s.channel.producing = false) (hqueue : s.channel.queue = []) :
    Balanced { s with heard := s.heard ++ [none] } refused (closings + 1) where
  returned := h.returned
  ending := h.ending
  quiet := h.quiet
  refusal := h.refusal
  finished := h.finished
  kept := h.kept
  left := h.left
  taken := h.taken
  bounded := h.bounded
  heard := by rw [h.heard, List.append_assoc, List.replicate_succ']
  closed _ := by
    have htaken : s.channel.taken = s.sent := by rw [h.kept hc, hqueue, List.append_nil]
    refine ⟨hp, htaken, ?_⟩
    rcases h.finished hp hc with hends | hnone
    · exact Or.inl hends
    · by_cases hrefused : refused = []
      · exact Or.inr ⟨hnone, hrefused⟩
      · exact Or.inl ((h.refusal hrefused).resolve_right (by rw [hc]; decide))

/-- The consumer goes away. -/
theorem Balanced.leaves (h : Balanced s refused closings) :
    Balanced { s with channel := s.channel.leave } refused closings where
  returned := h.returned
  ending := h.ending
  quiet := h.quiet
  refusal _ := Or.inr rfl
  finished _ hc := by cases hc
  kept hc := by cases hc
  left _ := rfl
  taken := h.taken
  bounded := Nat.zero_le _
  heard := h.heard
  closed := h.closed

/-! ## Moves

What a session comes to with a move, by what the channel answers. -/

theorem move_emit_of_full (hopen : s.channel.IsOpen) (hfull : capacity ≤ s.channel.queue.length) :
    s.move .emit = s := by
  rw [move]
  split
  · rfl
  · rw [emit?_eq_none_iff.mpr ⟨hopen, hfull⟩]

theorem move_emit_of_open (hpending : s.pending = e :: rest) (hopen : s.channel.IsOpen)
    (hroom : s.channel.queue.length < capacity) :
    s.move .emit = { s with
      channel := { s.channel with queue := s.channel.queue ++ [e], producing := !e.isTerminal }
      pending := rest, returned := s.returned ++ [(e, !e.isTerminal)], sent := s.sent ++ [e] } := by
  rw [move, hpending]
  cases hemit : s.channel.emit? e with
  | none =>
    have hfull := (emit?_eq_none_iff.mp hemit).2
    omega
  | some answer =>
    obtain ⟨more, d⟩ := answer
    rcases emit?_cases hemit with ⟨-, -, rfl, rfl⟩ | ⟨hgone, -, -⟩
    · simp only [hemit, accepted]
      rw [← List.append_assoc, List.drop_left]
    · rcases hgone with hgone | hgone
      · exact absurd (hopen.1.symm.trans hgone) (by decide)
      · exact absurd (hopen.2.symm.trans hgone) (by decide)

theorem move_emit_of_gone (hpending : s.pending = e :: rest)
    (hgone : s.channel.producing = false ∨ s.channel.consuming = false) :
    s.move .emit = { s with
      channel := s.channel.hangUp, pending := rest, returned := s.returned ++ [(e, false)] } := by
  have hnotOpen : ¬ s.channel.IsOpen := by
    rintro ⟨hp, hc⟩
    rw [hp, hc] at hgone
    simp at hgone
  rw [move, hpending]
  cases hemit : s.channel.emit? e with
  | none => exact absurd (emit?_eq_none_iff.mp hemit).1 hnotOpen
  | some answer =>
    obtain ⟨more, d⟩ := answer
    rcases emit?_cases hemit with ⟨hopen, -, -, -⟩ | ⟨-, rfl, rfl⟩
    · exact absurd hopen hnotOpen
    · have hdrop : List.drop s.channel.accepted.length s.channel.hangUp.accepted = [] :=
        List.drop_length
      simp only [hemit, hdrop, List.append_nil]

/-- A side is gone, or both are there and there is room or none. -/
theorem gone_or_open (c : Channel) :
    (c.producing = false ∨ c.consuming = false) ∨
      c.IsOpen ∧ (c.queue.length < capacity ∨ capacity ≤ c.queue.length) := by
  have hlength := Nat.lt_or_ge c.queue.length capacity
  rw [Channel.IsOpen]
  cases c.producing <;> cases c.consuming <;> simp [hlength]

/-- **Every move keeps the books.** -/
theorem exists_balanced_move (h : Balanced s refused closings) (m : Move) :
    ∃ refused' closings', Balanced (s.move m) refused' closings' := by
  cases m with
  | emit =>
    cases hpending : s.pending with
    | nil =>
      refine ⟨refused, closings, ?_⟩
      rw [move, hpending]
      exact h
    | cons e rest =>
      rcases gone_or_open s.channel with hgone | ⟨hopen, hroom | hfull⟩
      · rw [move_emit_of_gone hpending hgone]
        exact ⟨_, _, h.refuses hgone hpending⟩
      · rw [move_emit_of_open hpending hopen hroom]
        exact ⟨_, _, h.sends hopen hroom e rest⟩
      · rw [move_emit_of_full hopen hfull]
        exact ⟨_, _, h⟩
  | hangUp => exact ⟨_, _, h.hangsUp⟩
  | receive =>
    rw [move]
    cases hreceive : s.channel.receive? with
    | none => exact ⟨_, _, h⟩
    | some answer =>
      obtain ⟨x, d⟩ := answer
      obtain ⟨hc, ⟨e, rest, hqueue, rfl, rfl⟩ | ⟨hqueue, hp, rfl, rfl⟩⟩ := receive?_cases hreceive
      · exact ⟨_, _, h.receives hc hqueue⟩
      · exact ⟨_, _, h.closes hc hp hqueue⟩
  | leave => exact ⟨_, _, h.leaves⟩

/-- **So does every schedule.** -/
theorem exists_balanced_run (h : Balanced s refused closings) (moves : List Move) :
    ∃ refused' closings', Balanced (s.run moves) refused' closings' := by
  induction moves generalizing s refused closings with
  | nil => exact ⟨_, _, h⟩
  | cons m moves ih =>
    obtain ⟨_, _, hmove⟩ := exists_balanced_move h m
    exact ih hmove

/-! ## What is read off the books -/

/-- What was emitted was sent or refused, and in this order. -/
theorem Balanced.emitted_eq (h : Balanced s refused closings) :
    s.emitted = s.sent ++ refused := by
  rw [emitted, h.returned, List.map_append, List.map_map, List.map_map]
  simp [Function.comp_def]

/-- While the consumer is there, it has been sent what was emitted, up to
the first terminal event. -/
theorem Balanced.sent_eq (h : Balanced s refused closings) (hc : s.channel.consuming = true) :
    s.sent = untilTerminal s.emitted := by
  rw [h.emitted_eq]
  rcases h.ending with hquiet | hends
  · have hrefused : refused = [] := by
      by_contra hne
      obtain ⟨before, last, hsent, -, hlast⟩ :=
        (h.refusal hne).resolve_right (by rw [hc]; decide)
      rw [hsent] at hquiet
      exact not_quiet_append_singleton before hlast hquiet
    rw [hrefused, untilTerminal_append_of_quiet hquiet, untilTerminal, List.append_nil]
  · rw [untilTerminal_append_of_endsOnce hends]

end Session

end Turnstile
