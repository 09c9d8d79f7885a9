import Turnstile.Proofs.Stream.Session
/-!
# Schedules — what holds whatever the order of moves

The producer of a channel makes its emissions in turn, the consumer
receives, either may go away, and a schedule says who moves when. Whatever
it is, the session is `Orderly`: nothing is lost, doubled or reordered,
nobody is told anything but what happened, and what a consumer that
collects returns is the outcome of what was emitted.
-/

namespace Turnstile

open ChatEvent Channel

namespace Session

variable {s : Session} {e : ChatEvent} {refused : List ChatEvent} {closings : Nat}

/-! ## Calls -/

/-- A move makes no call but the next one. -/
theorem calls_move (s : Session) (m : Move) :
    (s.move m).emitted ++ (s.move m).pending <+: s.emitted ++ s.pending := by
  cases m with
  | emit =>
    cases hpending : s.pending with
    | nil =>
      rw [move, hpending]
      simp only [hpending]
      exact List.prefix_rfl
    | cons e rest =>
      rw [move, hpending]
      cases hemit : s.channel.emit? e with
      | none => simp only [hemit, hpending]; exact List.prefix_rfl
      | some answer =>
        obtain ⟨more, d⟩ := answer
        simp only [hemit, emitted, List.map_append, List.append_assoc]
        exact List.prefix_rfl
  | hangUp =>
    rw [move, List.append_nil]
    exact List.prefix_append _ _
  | receive =>
    rw [move]
    split
    · exact List.prefix_rfl
    · exact List.prefix_rfl
  | leave => exact List.prefix_rfl

/-- Nor does a schedule. -/
theorem calls_run (s : Session) (moves : List Move) :
    (s.run moves).emitted ++ (s.run moves).pending <+: s.emitted ++ s.pending := by
  induction moves generalizing s with
  | nil => exact List.prefix_rfl
  | cons m moves ih => exact (ih (s.move m)).trans (calls_move s m)

/-! ## Once a side is gone -/

/-- Every later emission is refused, and nothing more is sent. -/
structure Fruitless (s t : Session) : Prop where
  sent : t.sent = s.sent
  returned : ∃ refused : List ChatEvent, t.returned = s.returned ++ refused.map fun e => (e, false)

theorem Fruitless.refl (s : Session) : Fruitless s s := ⟨rfl, [], by simp⟩

theorem Fruitless.trans {s t u : Session} (h : Fruitless s t) (h' : Fruitless t u) :
    Fruitless s u := by
  obtain ⟨refused, hreturned⟩ := h.returned
  obtain ⟨refused', hreturned'⟩ := h'.returned
  refine ⟨h'.sent.trans h.sent, refused ++ refused', ?_⟩
  rw [hreturned', hreturned, List.map_append, List.append_assoc]

/-- **A side that is gone stays away**, and moves come to nothing. -/
theorem fruitless_move (hgone : s.channel.producing = false ∨ s.channel.consuming = false)
    (m : Move) :
    ((s.move m).channel.producing = false ∨ (s.move m).channel.consuming = false) ∧
      Fruitless s (s.move m) := by
  cases m with
  | emit =>
    cases hpending : s.pending with
    | nil =>
      rw [move, hpending]
      exact ⟨hgone, .refl s⟩
    | cons e rest =>
      rw [move_emit_of_gone hpending hgone]
      exact ⟨Or.inl rfl, rfl, [e], rfl⟩
  | hangUp => exact ⟨Or.inl rfl, rfl, [], by simp [move]⟩
  | receive =>
    rw [move]
    cases hreceive : s.channel.receive? with
    | none => exact ⟨hgone, .refl s⟩
    | some answer =>
      obtain ⟨x, d⟩ := answer
      obtain ⟨-, ⟨e, rest, -, -, rfl⟩ | ⟨-, -, -, rfl⟩⟩ := receive?_cases hreceive
      · exact ⟨hgone, rfl, [], by simp⟩
      · exact ⟨hgone, rfl, [], by simp⟩
  | leave => exact ⟨Or.inr rfl, rfl, [], by simp [move]⟩

theorem fruitless_run (hgone : s.channel.producing = false ∨ s.channel.consuming = false)
    (moves : List Move) : Fruitless s (s.run moves) := by
  induction moves generalizing s with
  | nil => exact .refl s
  | cons m moves ih =>
    obtain ⟨hgone', hmove⟩ := fruitless_move hgone m
    exact hmove.trans (ih hgone')

/-- A consumer that has left is given nothing. -/
theorem left_move (hc : s.channel.consuming = false) (m : Move) :
    (s.move m).channel.consuming = false ∧ (s.move m).heard = s.heard := by
  cases m with
  | emit =>
    cases hpending : s.pending with
    | nil =>
      rw [move, hpending]
      exact ⟨hc, rfl⟩
    | cons e rest =>
      rw [move_emit_of_gone hpending (Or.inr hc)]
      exact ⟨hc, rfl⟩
  | hangUp => exact ⟨hc, rfl⟩
  | receive =>
    rw [move]
    cases hreceive : s.channel.receive? with
    | none => exact ⟨hc, rfl⟩
    | some answer =>
      have hhere := (receive?_cases (d := answer.2) hreceive).1
      exact absurd (hhere.symm.trans hc) (by decide)
  | leave => exact ⟨rfl, rfl⟩

theorem heard_run_of_left (hc : s.channel.consuming = false) (moves : List Move) :
    (s.run moves).heard = s.heard := by
  induction moves generalizing s with
  | nil => rfl
  | cons m moves ih =>
    obtain ⟨hc', hheard⟩ := left_move hc m
    exact (ih hc').trans hheard

/-- **An emission answered with no** leaves a producer that is done. -/
theorem Balanced.producing_of_refused (h : Balanced s refused closings)
    (hno : (e, false) ∈ s.returned) : s.channel.producing = false := by
  by_contra hp
  obtain ⟨hquiet, rfl⟩ := h.quiet (by simpa using hp)
  rw [h.returned, List.map_nil, List.append_nil] at hno
  obtain ⟨e', hsent, heq⟩ := List.mem_map.mp hno
  have hterminal : (!e'.isTerminal) = false := (Prod.mk.inj heq).2
  rw [hquiet e' hsent] at hterminal
  cases hterminal

/-! ## Collecting -/

theorem Balanced.reduceOption_heard (h : Balanced s refused closings) :
    s.heard.reduceOption = s.channel.taken := by
  rw [h.heard, List.reduceOption_append, List.reduceOption_replicate_none, List.append_nil,
    List.reduceOption, List.filterMap_map]
  exact List.filterMap_some

/-- Who was given a terminal event was given everything. -/
theorem Balanced.taken_eq_of_terminal (h : Balanced s refused closings)
    (hnot : ¬ Quiet s.channel.taken) : s.channel.taken = s.sent ∧ EndsOnce s.sent := by
  have hsent : ¬ Quiet s.sent := by
    obtain ⟨rest, hrest⟩ := h.taken
    exact fun hquiet => hnot (quiet_append.mp (hrest ▸ hquiet)).1
  have hends : EndsOnce s.sent := h.ending.resolve_left hsent
  obtain ⟨before, last, heq, hquiet, hlast⟩ := hends
  have htaken := h.taken
  rw [heq] at htaken
  rcases List.prefix_concat_iff.mp htaken with hall | ⟨rest, hrest⟩
  · exact ⟨hall.trans heq.symm, before, last, heq, hquiet, hlast⟩
  · exact absurd (quiet_append.mp (hrest ▸ hquiet)).1 hnot

/-- A consumer that collects goes on until it has been given everything. -/
theorem Balanced.taken_eq_of_collected (h : Balanced s refused closings)
    (hstopped : s.heard.any (Option.all ChatEvent.isTerminal) = true) :
    s.channel.taken = s.sent ∧ (EndsOnce s.sent ∨ refused = []) := by
  by_cases hclosed : closings = 0
  · -- nothing but a terminal event can have stopped it
    have hnot : ¬ Quiet s.channel.taken := by
      intro hquiet
      rw [h.heard, hclosed, List.replicate_zero, List.append_nil, List.any_map,
        List.any_eq_true] at hstopped
      obtain ⟨e, he, hterminal⟩ := hstopped
      have hgoes : e.isTerminal = true := hterminal
      rw [hquiet e he] at hgoes
      cases hgoes
    obtain ⟨htaken, hends⟩ := h.taken_eq_of_terminal hnot
    exact ⟨htaken, Or.inl hends⟩
  · obtain ⟨-, htaken, hend⟩ := h.closed hclosed
    exact ⟨htaken, hend.imp_right fun hnone => hnone.2⟩

/-- **What a consumer that collects returns**, if it returns, is the
outcome of what was emitted. -/
theorem Balanced.outcome_of_collected (h : Balanced s refused closings)
    {x : Except StreamError ChatTurn} (hx : s.collected? = some x) :
    ChatTurn.Outcome s.emitted x := by
  rw [collected?, h.reduceOption_heard] at hx
  split at hx
  · rename_i hstopped
    obtain ⟨htaken, hend⟩ := h.taken_eq_of_collected hstopped
    rw [h.emitted_eq, ← Option.some.inj hx, htaken]
    rcases hend with ⟨before, last, heq, -, hlast⟩ | rfl
    · have hnot : ¬ Quiet s.sent := heq ▸ not_quiet_append_singleton before hlast
      exact ChatTurn.collect_eq_iff.mp (ChatTurn.collect_append_of_not_quiet hnot refused)
    · rw [List.append_nil]
      exact ChatTurn.collect_eq_iff.mp rfl
  · cases hx

/-- **And it returns** once the producer is done: it is at most one look
past what waits. -/
theorem exists_collected_run (hp : s.channel.producing = false)
    (hc : s.channel.consuming = true) :
    ∃ x, (s.run (List.replicate (s.channel.queue.length + 1) .receive)).collected? = some x := by
  induction hqueue : s.channel.queue generalizing s with
  | nil =>
    have hreceive : s.channel.receive? = some (none, s.channel) := by
      simp [receive?, take?, hc, hp, hqueue]
    refine ⟨ChatTurn.collect (s.heard ++ [none]).reduceOption, ?_⟩
    rw [List.length_nil, List.replicate_one, run, List.foldl_cons, List.foldl_nil, move, hreceive]
    simp only [collected?, List.any_append, List.any_cons, Option.all_none, Bool.true_or,
      Bool.or_true, if_true]
  | cons e rest ih =>
    have hreceive : s.channel.receive? = some (some e,
        { s.channel with queue := rest, taken := s.channel.taken ++ [e] }) := by
      simp [receive?, take?, hc, hqueue]
    have hmove : s.move .receive = { s with
        channel := { s.channel with queue := rest, taken := s.channel.taken ++ [e] }
        heard := s.heard ++ [some e] } := by
      rw [move, hreceive]
    rw [List.length_cons, List.replicate_succ, run, List.foldl_cons, hmove]
    exact ih hp hc rfl

/-! ## Orderly sessions -/

/-- What holds of a session of these emissions at any time. -/
structure Orderly (es : List ChatEvent) (s : Session) : Prop where
  /-- Emissions are called for in turn. -/
  calls : s.emitted ++ s.pending <+: es
  /-- **While the consumer is there**, what it has received and what waits
  is what was emitted, up to the first terminal event. -/
  inOrder : s.channel.consuming = true →
    s.channel.taken ++ s.channel.queue = untilTerminal s.emitted ∧
      s.sent = s.channel.taken ++ s.channel.queue
  /-- It is handed these events, and nothing else but that there are no
  more. -/
  received : ∃ closings,
    s.heard = s.channel.taken.map some ++ List.replicate closings none
  bounded : s.channel.queue.length ≤ capacity
  /-- **A producer that faces a full queue waits**: its call does not
  return, and nothing changes. -/
  waits : s.channel.IsOpen → s.channel.queue.length = capacity → s.move .emit = s
  /-- In every other case it returns. -/
  returns : ∀ e rest, s.pending = e :: rest →
    ¬ (s.channel.IsOpen ∧ s.channel.queue.length = capacity) →
    ∃ answer, (s.move .emit).returned = s.returned ++ [(e, answer)] ∧
      (s.move .emit).pending = rest
  /-- **The answer is yes exactly for what is sent and not terminal**, and
  what was refused comes after what was sent. -/
  answers : ∃ refused : List ChatEvent, s.returned =
    s.sent.map (fun e => (e, !e.isTerminal)) ++ refused.map fun e => (e, false)
  /-- After one no, nothing more is sent and every answer is no. -/
  afterNo : ∀ e, (e, false) ∈ s.returned → ∀ more, Fruitless s (s.run more)
  /-- So it is after the consumer has left, and it is given nothing. -/
  afterLeaving : s.channel.consuming = false →
    s.channel.queue = [] ∧ ∀ more, Fruitless s (s.run more) ∧ (s.run more).heard = s.heard
  /-- A consumer that collects returns the outcome of what was emitted. -/
  collects : ∀ x, s.collected? = some x → ChatTurn.Outcome s.emitted x
  /-- It does return, once the producer is done. -/
  collected : s.channel.producing = false → s.channel.consuming = true →
    ∃ x, (s.run (List.replicate (s.channel.queue.length + 1) .receive)).collected? = some x

theorem Balanced.orderly {es : List ChatEvent} (h : Balanced s refused closings)
    (hcalls : s.emitted ++ s.pending <+: es) : Orderly es s where
  calls := hcalls
  inOrder hc := ⟨(h.kept hc).symm.trans (h.sent_eq hc), h.kept hc⟩
  received := ⟨closings, h.heard⟩
  bounded := h.bounded
  waits hopen hfull := move_emit_of_full hopen (Nat.le_of_eq hfull.symm)
  returns e rest hpending hnot := by
    rcases gone_or_open s.channel with hgone | ⟨hopen, hroom | hfull⟩
    · rw [move_emit_of_gone hpending hgone]
      exact ⟨false, rfl, rfl⟩
    · rw [move_emit_of_open hpending hopen hroom]
      exact ⟨_, rfl, rfl⟩
    · have hbounded := h.bounded
      exact absurd ⟨hopen, by omega⟩ hnot
  answers := ⟨refused, h.returned⟩
  afterNo _ hno more := fruitless_run (Or.inl (h.producing_of_refused hno)) more
  afterLeaving hc := ⟨h.left hc, fun more =>
    ⟨fruitless_run (Or.inr hc) more, heard_run_of_left hc more⟩⟩
  collects _ hx := h.outcome_of_collected hx
  collected hp hc := exists_collected_run hp hc

end Session

/-- **A channel is orderly on every schedule**, whatever is emitted and
whoever goes away when; and what collecting comes to is settled by the
first terminal event alone. -/
theorem orderly_run :
    (∀ (es : List ChatEvent) (moves : List Move),
      Session.Orderly es ((Session.start es).run moves)) ∧
    ∀ (es : List ChatEvent) (x : Except StreamError ChatTurn),
      ChatTurn.collect es = x ↔ ChatTurn.Outcome es x := by
  refine ⟨fun es moves => ?_, fun es x => ChatTurn.collect_eq_iff⟩
  obtain ⟨refused, closings, hbalanced⟩ :=
    Session.exists_balanced_run (Session.balanced_start es) moves
  exact hbalanced.orderly (Session.calls_run (Session.start es) moves)

end Turnstile
