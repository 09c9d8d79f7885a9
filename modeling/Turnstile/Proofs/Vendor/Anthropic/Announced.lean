import Turnstile.Proofs.Vendor.Anthropic.Ledger
/-!
# Announced calls

The ledger of a whole run, over any lines at all: one line keeps the books
or balances them for good (`Books.take`), and so does the end, so every
run has a ledger of just the calls it emitted (`exists_entries`). Each of
them goes back to an opening of its own: an announcement of its id and
name at its index, or a stray fragment, and then it has neither. Without
stray fragments every call was announced.
-/

namespace Turnstile

namespace Anthropic

variable {es : List (Option Event)} {ledger : List Entry} {p : Progress}

/-- Entries that lines bear out, each of an opening of its own. -/
structure Balanced (es : List (Option Event)) (ledger : List Entry) : Prop where
  sound : ∀ e ∈ ledger, e.Sound es
  once : (ledger.map (·.opened)).Nodup

/-- An event that is no announcement and stops no block. -/
theorem not_touches {e : Event} (hstop : ∀ k, e ≠ .blockStop k)
    (hstart : ∀ k id name input, e ≠ .blockStart k (.toolUse id name input)) (k : Nat) :
    ¬ Touches (some e) k := by
  rintro (h | ⟨id, name, input, h⟩)
  · exact hstop k (Option.some.inj h)
  · exact hstart k id name input (Option.some.inj h)

/-! ## One line -/

/-- A text is no call. -/
@[simp] theorem filterMap_call?_tokens (text : String) :
    (Progress.tokens text).filterMap ChatEvent.call? = [] := by
  unfold Progress.tokens
  split <;> rfl

/-- The calls emitted when a message ends. -/
theorem filterMap_call?_finish (p : Progress) :
    p.finish.2.filterMap ChatEvent.call? = p.calls.finishAll.2 := by
  change (p.calls.finishAll.2.map ChatEvent.toolCall ++ [ChatEvent.done p.usage]).filterMap _ = _
  rw [List.filterMap_append, ChatEvent.filterMap_call?_map]
  exact List.append_nil _

/-- What is answered to the next line is booked: the books go on, or they
are balanced for good. -/
def Booked (es : List (Option Event)) (ledger : List Entry) (x : Option Event)
    (answer : Progress × List ChatEvent) : Prop :=
  ∃ entries,
    (answer.2.filterMap ChatEvent.call?).map (es.length, ·) = entries.map Entry.numbered ∧
    (answer.1.finished = false ∧ Books (es ++ [x]) answer.1.calls (ledger ++ entries) ∨
      answer.1.finished = true ∧ ∀ more, Balanced (es ++ x :: more) (ledger ++ entries))

/-- No call is emitted and the books go on. -/
theorem Books.booked {x : Option Event} {q : Progress} {answer : List ChatEvent}
    (h : Books (es ++ [x]) q.calls ledger) (hq : q.finished = false)
    (hanswer : answer.filterMap ChatEvent.call? = []) : Booked es ledger x (q, answer) :=
  ⟨[], by rw [hanswer]; rfl, Or.inl ⟨hq, by rwa [List.append_nil]⟩⟩

/-- An event that touches no block and brings no call. -/
theorem Books.pass {e : Event} {answer : List ChatEvent} (h : Books es p.calls ledger)
    (hp : p.finished = false) (hstop : ∀ k, e ≠ .blockStop k)
    (hstart : ∀ k id name input, e ≠ .blockStart k (.toolUse id name input))
    (hanswer : answer.filterMap ChatEvent.call? = []) : Booked es ledger (some e) (p, answer) :=
  (h.skip (not_touches hstop hstart)).booked hp hanswer

/-- **Ending the message balances the books**, at a line that stops no
block or at the end. -/
theorem Books.finish (h : Books es p.calls ledger) :
    ∃ entries,
      (p.finish.2.filterMap ChatEvent.call?).map (es.length, ·) = entries.map Entry.numbered ∧
      ∀ more, (∀ k, ¬ Stops (es ++ more) es.length k) →
        Balanced (es ++ more) (ledger ++ entries) := by
  obtain ⟨entries, hentries, honce, hsound⟩ := h.flush
  refine ⟨entries, ?_, fun more hstops => ⟨fun e he => ?_, honce⟩⟩
  · rw [filterMap_call?_finish, hentries]
  rcases List.mem_append.mp he with he | he
  · exact (h.sound e he).append (h.past e he) more
  · exact hsound more hstops e he

/-- **One line keeps the books**, whatever it carries. -/
theorem Books.take (h : Books es p.calls ledger) (hp : p.finished = false) (x : Option Event) :
    Booked es ledger x (handler.take p x) := by
  rcases x with - | e
  · refine (h.skip fun k hk => ?_).booked hp rfl
    rcases hk with hk | ⟨_, _, _, hk⟩ <;> cases hk
  cases e with
  | messageStart usage | messageDelta usage => exact Books.pass h hp nofun nofun rfl
  | ping | unknown => exact Books.pass h hp nofun nofun rfl
  | blockStart index block =>
    cases block with
    | toolUse id name input => exact (h.start index id name input).booked hp rfl
    | text text => exact h.pass hp nofun nofun (filterMap_call?_tokens text)
    | unknown => exact h.pass hp nofun nofun rfl
  | blockDelta index delta =>
    cases delta with
    | inputJson fragment => exact (h.append index fragment).booked hp rfl
    | text text => exact h.pass hp nofun nofun (filterMap_call?_tokens text)
    | unknown => exact h.pass hp nofun nofun rfl
  | blockStop index =>
    obtain ⟨entries, hentries, hbooks⟩ := h.stop index
    refine ⟨entries, ?_, Or.inl ⟨hp, hbooks⟩⟩
    rw [← hentries]
    exact congrArg _ (ChatEvent.filterMap_call?_map _)
  | messageStop =>
    obtain ⟨entries, hentries, hbalanced⟩ := h.finish
    refine ⟨entries, hentries, Or.inr ⟨rfl, fun more => hbalanced _ fun k hk => ?_⟩⟩
    cases carries_length.mp hk
  | error kind message =>
    refine ⟨[], rfl, Or.inr ⟨rfl, fun more => ?_⟩⟩
    rw [List.append_nil]
    exact ⟨fun e he => (h.sound e he).append (h.past e he) _, h.once⟩

/-! ## All lines -/

/-- After its end a message has no more calls. -/
theorem numberedCalls_replies_of_finished (hp : p.finished = true) (n : Nat)
    (xs : List (Option Event)) : ChatEvent.numberedCalls n (handler.replies p xs) = [] := by
  induction xs generalizing n with
  | nil =>
    have hend : handler.replies p [] = [[]] := by rw [Handler.replies, Handler.onEnd_of_finished hp]
    rw [hend]
    rfl
  | cons x xs ih =>
    rw [Handler.replies_cons_of_finished hp, ChatEvent.numberedCalls, ih]
    rfl

/-- **The calls emitted for the rest of the lines**, and at the end, can be
booked so that the ledger balances. -/
theorem Books.exists_entries (xs : List (Option Event)) (h : Books es p.calls ledger)
    (hp : p.finished = false) :
    ∃ entries,
      ChatEvent.numberedCalls es.length (handler.replies p xs) = entries.map Entry.numbered ∧
      Balanced (es ++ xs) (ledger ++ entries) := by
  -- on the lines still to come, the books of those before being the invariant
  induction xs generalizing es ledger p with
  | nil =>
    obtain ⟨entries, hentries, hbalanced⟩ := h.finish
    have hend : handler.replies p [] = [p.finish.2] := by
      rw [Handler.replies, Handler.onEnd_of_open hp]
      rfl
    refine ⟨entries, ?_, hbalanced [] fun k hk => ?_⟩
    · rw [hend, ChatEvent.numberedCalls, hentries]
      exact List.append_nil _
    · rw [Stops, Carries, List.append_nil, List.getElem?_eq_none (Nat.le_refl _)] at hk
      cases hk
  | cons x xs ih =>
    rw [Handler.replies_cons hp, ChatEvent.numberedCalls]
    obtain ⟨entries, hentries, ⟨hopen, hbooks⟩ | ⟨hdone, hbalanced⟩⟩ := h.take hp x
    · obtain ⟨rest, hrest, hbalanced⟩ := ih hbooks hopen
      rw [List.length_append, List.length_singleton] at hrest
      refine ⟨entries ++ rest, by rw [hentries, hrest, List.map_append], ?_⟩
      rwa [List.append_cons, ← List.append_assoc]
    · refine ⟨entries, ?_, hbalanced xs⟩
      rw [hentries, numberedCalls_replies_of_finished hdone, List.append_nil]

/-- The call at a ledger's entry was announced, unless by a stray fragment. -/
theorem Balanced.starts (h : Balanced es ledger) (hstray : ∀ i index, ¬ Stray es i index)
    {e : Entry} (he : e ∈ ledger) : Starts es e.opened e.index e.call.id e.call.name :=
  (h.sound e he).opens.resolve_right fun ⟨_, _, hopens⟩ => hstray _ _ hopens

/-- **Every emitted call goes back to an opening of its own**, over any
lines. It is opened at its index by an announcement of its id and name, or
by argument text where no announcement stands, and then has neither; so
without such text every call was announced, each by a line of its own. -/
theorem emitted_accounted (lines : List String) :
    ∃ ledger : List Entry,
      ChatEvent.numberedCalls 0 (normalizer.answers lines) =
        ledger.map Entry.numbered ∧
      Balanced (lines.map lineEvent?) ledger ∧
      ((∀ i index, ¬ Stray (lines.map lineEvent?) i index) →
        ∀ e ∈ ledger, Starts (lines.map lineEvent?) e.opened e.index e.call.id e.call.name) := by
  obtain ⟨ledger, hledger, hbalanced⟩ :=
    books_nil.exists_entries (p := .start) (lines.map lineEvent?) rfl
  rw [answers_eq_replies]
  exact ⟨ledger, hledger, hbalanced, fun hstray e he => hbalanced.starts hstray he⟩

/-- Lines of a block of another kind whose argument text is of the known
one. -/
def foreignBlock : List String :=
  ["\x7b\"type\":\"content_block_start\",\"index\":0,\"content_block\":" ++
    "\x7b\"type\":\"server_tool_use\",\"id\":\"srv\",\"name\":\"web\"\x7d\x7d",
    "\x7b\"type\":\"content_block_delta\",\"index\":0,\"delta\":" ++
    "\x7b\"type\":\"input_json_delta\",\"partial_json\":\"\x7b\\\"q\\\":1\x7d\"\x7d\x7d",
    "\x7b\"type\":\"content_block_stop\",\"index\":0\x7d",
    "\x7b\"type\":\"message_stop\"\x7d"].map ("data: " ++ ·)

/-- **A call that nothing announced**, emitted when the block stops: the
argument text is stray, and opens a slot without id and name. -/
theorem unannounced_emitted :
    ChatEvent.numberedCalls 0 (normalizer.answers foreignBlock) =
        [(2, ⟨"", "", .obj [("q", .int 1)]⟩)] ∧
      ∀ i index id name, ¬ Starts (foreignBlock.map lineEvent?) i index id name := by
  have hevents : foreignBlock.map lineEvent? = [some (.blockStart 0 .unknown),
      some (.blockDelta 0 (.inputJson "\x7b\"q\":1\x7d")), some (.blockStop 0),
      some .messageStop] := by
    simp only [foreignBlock, List.map_cons, List.map_nil, lineEvent?_append]
    decide +kernel
  rw [answers_eq_replies, hevents]
  refine ⟨by decide +kernel, fun i index id name ⟨input, hstart⟩ => ?_⟩
  have hmem := List.mem_of_getElem? hstart
  simp at hmem

end Anthropic

end Turnstile
