import Turnstile.Proofs.Stream.Tokens
import Turnstile.Proofs.Tool.Arguments
import Turnstile.Proofs.Tool.Assembly
import Turnstile.Proofs.Vendor.Anthropic.Events
import Mathlib.Data.List.Forall2
import Mathlib.Data.List.Induction
/-!
# Anthropic — streams agree with whole responses

A response may be read whole or as a stream that delivers its blocks one
after another, each cut into any pieces (`Delivers`), with events between
that say nothing of the content. The stream gives the events of the whole
response up to how text is cut, with the usage its reports add up to.

Between blocks no slot is open. That carries the induction over the blocks:
the pieces of a block have its own slot to themselves, and its stop closes
that again (`Delivers.through`).
-/

namespace Turnstile

namespace Anthropic

/-! ## How a response is streamed -/

/-- The text a piece adds to a text. -/
def Delta.text? : Delta → Option String
  | .text s => some s
  | _ => none

/-- The argument text a piece adds to a call. -/
def Delta.fragment? : Delta → Option String
  | .inputJson fragment => some fragment
  | _ => none

/-- The events of a block: its start, its pieces and its stop. -/
def blockEvents (index : Nat) (block : ContentBlock) (deltas : List Delta) : List Event :=
  .blockStart index block :: (deltas.map (.blockDelta index) ++ [.blockStop index])

/-- The text is one of the input. None at all may stand for an input that
is empty or null. -/
def Spells (text : String) (input : Json) : Prop :=
  Json.ofString? text = some input ∨ text = "" ∧ (input = .empty ∨ input = .null)

/-- Events that deliver a block. The start of a text has its first piece;
what the start of a call gives as input does not matter. Pieces of unknown
kinds may stand anywhere. -/
inductive Delivers : ContentBlock → List Event → Prop
  | text (index : Nat) (first text : String) (deltas : List Delta)
      (hdeltas : ∀ d ∈ deltas, d.fragment? = none)
      (htext : String.join (first :: deltas.filterMap Delta.text?) = text) :
      Delivers (.text text) (blockEvents index (.text first) deltas)
  | toolUse (index : Nat) (id name : String) (given input : Json) (deltas : List Delta)
      (hdeltas : ∀ d ∈ deltas, d.text? = none)
      (hinput : Spells (String.join (deltas.filterMap Delta.fragment?)) input) :
      Delivers (.toolUse id name input) (blockEvents index (.toolUse id name given) deltas)
  | unknown (index : Nat) (deltas : List Delta) (hdeltas : ∀ d ∈ deltas, d = .unknown) :
      Delivers .unknown (blockEvents index .unknown deltas)

/-- The event is one of a block. -/
def Event.ofBlock : Event → Bool
  | .blockStart .. | .blockDelta .. | .blockStop _ => true
  | _ => false

/-- The event says nothing of the content. -/
def Event.aside : Event → Bool
  | .messageStart _ | .messageDelta _ | .ping | .unknown => true
  | _ => false

/-- Events that deliver blocks one after another, with asides anywhere. -/
def Streams (content : List ContentBlock) (events : List Event) : Prop :=
  ∃ parts, List.Forall₂ Delivers content parts ∧ events.filter (!·.aside) = parts.flatten

/-- The usage an event reports. -/
def Event.report? : Event → Option Usage
  | .messageStart usage | .messageDelta usage => some usage
  | _ => none

/-- The last count that is not nought, or nought. -/
def lastNonzero (counts : List Nat) : Nat := ((counts.filter (0 < ·)).getLast?).getD 0

/-- What events report, for either count the last that is not nought. -/
def reported (events : List Event) : Usage :=
  let reports := events.filterMap Event.report?
  ⟨lastNonzero (reports.map (·.input)), lastNonzero (reports.map (·.output))⟩

/-! ## Usage -/

theorem lastNonzero_concat (counts : List Nat) (n : Nat) :
    lastNonzero (counts ++ [n]) = if 0 < n then n else lastNonzero counts := by
  unfold lastNonzero
  rw [List.filter_append]
  by_cases hn : 0 < n
  · rw [if_pos hn, List.filter_cons_of_pos (by simpa using hn), List.filter_nil,
      List.getLast?_concat, Option.getD_some]
  · rw [if_neg hn, List.filter_cons_of_neg (by simpa using hn), List.filter_nil, List.append_nil]

/-- **Merged reports are the last counts that are not nought.** -/
theorem foldl_merge (reports : List Usage) :
    reports.foldl Usage.merge .zero =
      ⟨lastNonzero (reports.map (·.input)), lastNonzero (reports.map (·.output))⟩ := by
  induction reports using List.reverseRecOn with
  | nil => rfl
  | append_singleton reports report ih =>
    rw [List.foldl_concat, ih, List.map_append, List.map_append]
    simp only [Usage.merge, List.map_cons, List.map_nil, lastNonzero_concat]

/-! ## Asides -/

variable {p q : Progress} {e : Event} {events : List Event}

theorem handle_of_aside (h : e.aside = true) :
    (p.handle e).2 = [] ∧ (p.handle e).1.calls = p.calls := by
  cases e with
  | messageStart | messageDelta | ping | unknown => exact ⟨rfl, rfl⟩
  | blockStart | blockDelta | blockStop | messageStop | error => cases h

/-- What is answered to an event of a block is a matter of the slots. -/
theorem handle_of_ofBlock (h : e.ofBlock = true) (hcalls : p.calls = q.calls) :
    (p.handle e).2 = (q.handle e).2 ∧ (p.handle e).1.calls = (q.handle e).1.calls := by
  cases e with
  | blockStart index block => cases block <;> simp [Progress.handle, hcalls]
  | blockDelta index delta => cases delta <;> simp [Progress.handle, hcalls]
  | blockStop index => simp [Progress.handle, hcalls]
  | messageStart | messageDelta | messageStop | ping | error | unknown => cases h

theorem keeps (h : e.aside = true ∨ e.ofBlock = true) : handler.Keeps e := by
  intro p hp
  cases e with
  | blockStart index block => cases block <;> exact hp
  | blockDelta index delta => cases delta <;> exact hp
  | messageStart | messageDelta | blockStop | ping | unknown => exact hp
  | messageStop | error => rcases h with h | h <;> cases h

theorem usage_handle (h : e.aside = true ∨ e.ofBlock = true) :
    (p.handle e).1.usage = (e.report?.toList).foldl Usage.merge p.usage := by
  cases e with
  | blockStart index block => cases block <;> rfl
  | blockDelta index delta => cases delta <;> rfl
  | messageStart | messageDelta | blockStop | ping | unknown => rfl
  | messageStop | error => rcases h with h | h <;> cases h

/-- Asides may be left out. -/
theorem through_filter (h : ∀ e ∈ events, e.aside = true ∨ e.ofBlock = true)
    (hcalls : p.calls = q.calls) :
    (handler.through p events).2 = (handler.through q (events.filter (!·.aside))).2 ∧
      (handler.through p events).1.calls =
        (handler.through q (events.filter (!·.aside))).1.calls := by
  induction events generalizing p q with
  | nil => exact ⟨rfl, hcalls⟩
  | cons e events ih =>
    have hrest := fun e' he => h e' (List.mem_cons_of_mem e he)
    by_cases haside : e.aside = true
    · obtain ⟨hanswer, hsame⟩ := handle_of_aside (p := p) haside
      rw [List.filter_cons_of_neg (by simp [haside]), Handler.through]
      obtain ⟨hanswers, hcalls'⟩ := ih hrest (hsame.trans hcalls)
      refine ⟨?_, hcalls'⟩
      rw [show (handler.handle p e).2 = [] from hanswer]
      exact hanswers
    · have hblock := (h e List.mem_cons_self).resolve_left haside
      obtain ⟨hanswer, hsame⟩ := handle_of_ofBlock hblock hcalls
      rw [List.filter_cons_of_pos (by simp [haside]), Handler.through, Handler.through]
      obtain ⟨hanswers, hcalls'⟩ := ih hrest hsame
      exact ⟨congrArg₂ _ hanswer hanswers, hcalls'⟩

theorem usage_through (h : ∀ e ∈ events, e.aside = true ∨ e.ofBlock = true) :
    (handler.through p events).1.usage =
      (events.filterMap Event.report?).foldl Usage.merge p.usage := by
  induction events generalizing p with
  | nil => rfl
  | cons e events ih =>
    have hhead := usage_handle (p := p) (h e List.mem_cons_self)
    have hrest := ih (p := (p.handle e).1) fun e' he => h e' (List.mem_cons_of_mem e he)
    refine hrest.trans ?_
    rw [hhead, ← List.foldl_append]
    cases hreport : e.report? with
    | none => rw [List.filterMap_cons_none hreport]; rfl
    | some report => rw [List.filterMap_cons_some hreport]; rfl

/-! ## Blocks -/

theorem through_text (p : Progress) (index : Nat) (deltas : List Delta)
    (h : ∀ d ∈ deltas, d.fragment? = none) :
    handler.through p (deltas.map (.blockDelta index)) =
      (p, (deltas.filterMap Delta.text?).flatMap ChatEvent.ofText) := by
  induction deltas with
  | nil => rfl
  | cons d deltas ih =>
    have hrest := ih fun d' hd => h d' (List.mem_cons_of_mem d hd)
    cases d with
    | text text =>
      rw [List.map_cons, Handler.through]
      change ((handler.through p _).1, ChatEvent.ofText text ++ (handler.through p _).2) = _
      rw [hrest]
      rfl
    | inputJson fragment => cases h _ List.mem_cons_self
    | unknown => exact hrest

/-- The same with other slots. -/
def Progress.withCalls (p : Progress) (calls : Assembly) : Progress := { p with calls }

/-- Pieces of a call fill its slot where it is the only one. -/
theorem through_fragments (p : Progress) (index : Nat) (slot : CallSlot) {deltas : List Delta}
    (h : ∀ d ∈ deltas, d.text? = none) :
    handler.through (p.withCalls (.only index slot)) (deltas.map (.blockDelta index)) =
      (p.withCalls (.only index (slot.append (String.join (deltas.filterMap Delta.fragment?)))),
        []) := by
  induction deltas generalizing slot with
  | nil =>
    rw [List.filterMap_nil, String.join_nil, CallSlot.append_empty]
    rfl
  | cons d deltas ih =>
    have hrest := fun slot => ih slot fun d' hd => h d' (List.mem_cons_of_mem d hd)
    cases d with
    | text text => cases h _ List.mem_cons_self
    | inputJson fragment =>
      have hhandle : handler.handle (p.withCalls (.only index slot))
          (.blockDelta index (.inputJson fragment)) =
          (p.withCalls (.only index (slot.append fragment)), []) :=
        congrArg (fun calls => (p.withCalls calls, [])) (Assembly.append_only index slot fragment)
      rw [List.map_cons, Handler.through, hhandle, hrest, CallSlot.append_append,
        List.filterMap_cons_some (by rfl), String.join_cons]
      rfl
    | unknown => exact hrest slot

/-- The stop of a call closes its slot. -/
theorem handle_blockStop_only (p : Progress) (index : Nat) (slot : CallSlot) :
    (p.withCalls (.only index slot)).handle (.blockStop index) =
      (p.withCalls .empty, [.toolCall slot.call]) :=
  congrArg (fun r => (p.withCalls r.1, r.2.toList.map ChatEvent.toolCall))
    (Assembly.finish_only index slot)

/-- What is answered to a block: to its start, its pieces and its stop. -/
theorem through_blockEvents (p : Progress) (index : Nat) (block : ContentBlock)
    {deltas : List Delta} {p₁ p₂ p₃ : Progress} {es₁ es₂ es₃ : List ChatEvent}
    (hstart : p.handle (.blockStart index block) = (p₁, es₁))
    (hdeltas : handler.through p₁ (deltas.map (.blockDelta index)) = (p₂, es₂))
    (hstop : p₂.handle (.blockStop index) = (p₃, es₃)) :
    handler.through p (blockEvents index block deltas) = (p₃, es₁ ++ (es₂ ++ es₃)) := by
  have hstart : handler.handle p (.blockStart index block) = (p₁, es₁) := hstart
  have hstop : handler.handle p₂ (.blockStop index) = (p₃, es₃) := hstop
  rw [blockEvents, Handler.through, hstart, Handler.through_append, hdeltas]
  simp only [Handler.through, hstop, List.append_nil]

/-- A call's argument text stands for its input. -/
theorem Spells.call_eq {text : String} {input : Json} (h : Spells text input) (id name : String) :
    CallSlot.call ⟨id, name, text⟩ = .make id name input := by
  rcases h with h | ⟨rfl, rfl | rfl⟩
  · rw [CallSlot.call, parseArguments_eq h]
  · rw [CallSlot.call, parseArguments_empty]
  · rw [CallSlot.call, parseArguments_empty]
    rfl

/-- **A delivered block gives its events**, up to how text is cut, and
leaves no slot open. -/
theorem Delivers.through {block : ContentBlock} {part : List Event} (h : Delivers block part)
    (hp : p.calls = .empty) :
    (∀ more, ChatEvent.joined ((handler.through p part).2 ++ more) =
      ChatEvent.joined (block.events ++ more)) ∧
    (handler.through p part).1.calls = .empty := by
  have hsame : p = p.withCalls .empty := by rw [← hp]; rfl
  -- a stop where no slot is open
  have hstop (index : Nat) : p.handle (.blockStop index) = (p, []) := by
    rw [hsame]
    rfl
  cases h with
  | text index first text deltas hdeltas htext =>
    have hthrough := through_blockEvents p index (.text first) rfl
      (through_text p index deltas hdeltas) (hstop index)
    rw [hthrough]
    refine ⟨fun more => ?_, hp⟩
    subst htext
    rw [List.append_nil]
    exact ChatEvent.joined_pieces (first :: deltas.filterMap Delta.text?) more
  | toolUse index id name given input deltas hdeltas hinput =>
    have hcall : CallSlot.call (CallSlot.append ⟨id, name, ""⟩
        (String.join (deltas.filterMap Delta.fragment?))) = .make id name input := by
      rw [CallSlot.append, String.empty_append]
      exact hinput.call_eq id name
    have hthrough := through_blockEvents (p.withCalls .empty) index (.toolUse id name given) rfl
      (through_fragments p index ⟨id, name, ""⟩ hdeltas) (handle_blockStop_only p index _)
    rw [hsame, hthrough, hcall]
    exact ⟨fun _ => rfl, rfl⟩
  | unknown index deltas hdeltas =>
    have hnone : deltas.filterMap Delta.text? = [] :=
      List.filterMap_eq_nil_iff.mpr fun d hd => by rw [hdeltas d hd]; rfl
    have htext := through_text p index deltas fun d hd => by rw [hdeltas d hd]; rfl
    rw [hnone] at htext
    have hthrough := through_blockEvents p index .unknown rfl htext (hstop index)
    rw [hthrough]
    exact ⟨fun _ => rfl, hp⟩

/-! ## Responses -/

/-- All events of a delivered block are ones of a block. -/
theorem Delivers.ofBlock {block : ContentBlock} {part : List Event} (h : Delivers block part) :
    ∀ e ∈ part, e.ofBlock = true := by
  have hall (index : Nat) (b : ContentBlock) (deltas : List Delta) :
      ∀ e ∈ blockEvents index b deltas, e.ofBlock = true := by
    intro e he
    rcases List.mem_cons.mp he with rfl | he
    · rfl
    · rcases List.mem_append.mp he with he | he
      · obtain ⟨d, -, rfl⟩ := List.mem_map.mp he
        rfl
      · rw [List.mem_singleton.mp he]
        rfl
  cases h <;> exact hall _ _ _

/-- **Blocks delivered one after another** give their events, up to how
text is cut, and leave no slot open. -/
theorem through_flatten {content : List ContentBlock} {parts : List (List Event)}
    (h : List.Forall₂ Delivers content parts) (hp : p.calls = .empty) :
    (∀ more, ChatEvent.joined ((handler.through p parts.flatten).2 ++ more) =
      ChatEvent.joined (content.flatMap ContentBlock.events ++ more)) ∧
    (handler.through p parts.flatten).1.calls = .empty := by
  -- every block finds no slot open, as the one before has left none
  induction h generalizing p with
  | nil => exact ⟨fun _ => rfl, hp⟩
  | cons hblock _ ih =>
    obtain ⟨hevents, hcalls⟩ := hblock.through hp
    obtain ⟨hrest, hcalls'⟩ := ih hcalls
    rw [List.flatten_cons, Handler.through_append]
    refine ⟨fun more => ?_, hcalls'⟩
    rw [List.flatMap_cons, List.append_assoc, List.append_assoc, hevents]
    exact ChatEvent.joined_append_congr (hrest more) _

theorem ofBlock_flatten {content : List ContentBlock} {parts : List (List Event)}
    (h : List.Forall₂ Delivers content parts) : ∀ e ∈ parts.flatten, e.ofBlock = true := by
  induction h with
  | nil => exact fun _ he => nomatch he
  | cons hblock _ ih =>
    intro e he
    rw [List.flatten_cons] at he
    exact (List.mem_append.mp he).elim (hblock.ofBlock e) (ih e)

theorem Streams.mem {content : List ContentBlock} (h : Streams content events) :
    ∀ e ∈ events, e.aside = true ∨ e.ofBlock = true := by
  obtain ⟨parts, hparts, hfilter⟩ := h
  intro e he
  refine or_iff_not_imp_left.mpr fun haside => ?_
  have hmem : e ∈ parts.flatten := by
    rw [← hfilter]
    exact List.mem_filter.mpr ⟨he, by simp [haside]⟩
  exact ofBlock_flatten hparts e hmem

/-- **The content streamed** and the reports that came with it. -/
theorem Streams.through {content : List ContentBlock} (h : Streams content events) :
    (∀ more, ChatEvent.joined ((handler.through .start events).2 ++ more) =
      ChatEvent.joined (content.flatMap ContentBlock.events ++ more)) ∧
    (handler.through .start events).1 = ⟨.empty, reported events, false⟩ := by
  have hmem := h.mem
  obtain ⟨parts, hparts, hfilter⟩ := h
  obtain ⟨hanswers, hcalls⟩ := through_filter hmem (p := .start) rfl
  obtain ⟨hevents, hempty⟩ := through_flatten hparts (p := .start) rfl
  rw [hfilter] at hanswers hcalls
  have husage := usage_through hmem (p := .start)
  have hfinished : (handler.through .start events).1.finished = false :=
    Handler.finished_through (fun e he => keeps (hmem e he)) rfl
  refine ⟨fun more => by rw [hanswers, hevents], ?_⟩
  rw [hempty] at hcalls
  rw [show Progress.start.usage = .zero from rfl, foldl_merge] at husage
  generalize (handler.through .start events).1 = p at hcalls husage hfinished
  obtain ⟨calls, usage, finished⟩ := p
  subst hcalls husage hfinished
  rfl

/-- **A streamed response agrees with the response read whole**: the events
are the same up to how text is cut and but for the usage, which is what
the stream reported. The stream ends with its end mark, whatever follows
that, or with the body. -/
theorem joined_run_of_blocks {body : Bytes} {r : Response} {lines : List String} {tail : List Event}
    (hbody : Response.ofBytes? body = some r)
    (hlines : lines.filterMap lineEvent? = events ++ tail)
    (htail : tail = [] ∨ tail.head? = some .messageStop)
    (hstreams : Streams r.content events) :
    ∃ whole, decodeFull body = .ok whole ∧
      ChatEvent.joined (normalizer.run lines) =
        ChatEvent.joined { r with usage := reported events }.events ∧
      (reported events = r.usage →
        ChatEvent.joined (normalizer.run lines) = ChatEvent.joined whole) := by
  obtain ⟨hevents, hend⟩ := hstreams.through
  -- either way the stream ends with nothing but the usage
  have htail : handler.follow ⟨.empty, reported events, false⟩ tail =
      [.done (reported events)] := by
    rcases htail with rfl | htail
    · rfl
    · obtain ⟨rest, rfl⟩ := List.head?_eq_some_iff.mp htail
      rw [Handler.follow_cons rfl]
      have hrest : handler.follow (Progress.finish ⟨.empty, reported events, false⟩).1 rest = [] :=
        Handler.follow_of_finished rfl rest
      exact congrArg ([ChatEvent.done (reported events)] ++ ·) hrest
  have hrun : ChatEvent.joined (normalizer.run lines) =
      ChatEvent.joined { r with usage := reported events }.events := by
    rw [run_eq_follow, hlines,
      Handler.follow_append (fun e he => keeps (hstreams.mem e he)) rfl, hend, htail, hevents]
    rfl
  refine ⟨r.events, by rw [decodeFull, hbody], hrun, fun husage => ?_⟩
  rw [hrun, husage]

/-- A response of a text and a call. -/
def sampleBody : Bytes :=
  Utf8.encode ("\x7b\"content\":[\x7b\"type\":\"text\",\"text\":\"Hello\"\x7d," ++
    "\x7b\"type\":\"tool_use\",\"id\":\"t\",\"name\":\"f\",\"input\":\x7b\"q\":1\x7d\x7d]," ++
    "\"usage\":\x7b\"input_tokens\":3,\"output_tokens\":5\x7d\x7d")

/-- The same streamed, both cut in two. -/
def sampleLines : List String :=
  ["\x7b\"type\":\"content_block_start\",\"index\":0," ++
      "\"content_block\":\x7b\"type\":\"text\",\"text\":\"He\"\x7d\x7d",
    "\x7b\"type\":\"content_block_delta\",\"index\":0," ++
      "\"delta\":\x7b\"type\":\"text_delta\",\"text\":\"llo\"\x7d\x7d",
    "\x7b\"type\":\"content_block_stop\",\"index\":0\x7d",
    "\x7b\"type\":\"content_block_start\",\"index\":1," ++
      "\"content_block\":\x7b\"type\":\"tool_use\",\"id\":\"t\",\"name\":\"f\"\x7d\x7d",
    "\x7b\"type\":\"content_block_delta\",\"index\":1," ++
      "\"delta\":\x7b\"type\":\"input_json_delta\",\"partial_json\":\"\x7b\\\"q\\\"\"\x7d\x7d",
    "\x7b\"type\":\"content_block_delta\",\"index\":1," ++
      "\"delta\":\x7b\"type\":\"input_json_delta\",\"partial_json\":\":1\x7d\"\x7d\x7d",
    "\x7b\"type\":\"content_block_stop\",\"index\":1\x7d",
    "\x7b\"type\":\"message_delta\"," ++
      "\"usage\":\x7b\"input_tokens\":3,\"output_tokens\":5\x7d\x7d",
    "\x7b\"type\":\"message_stop\"\x7d"].map ("data: " ++ ·)

/-- What that response says. -/
def sampleEvents : List ChatEvent :=
  [.token "Hello", .toolCall ⟨"t", "f", .obj [("q", .int 1)]⟩, .done ⟨3, 5⟩]

/-- The stream of a text and a call, each cut in two, agrees with them. -/
theorem joined_run_of_blocks_sample :
    decodeFull sampleBody = .ok sampleEvents ∧
      ChatEvent.joined (normalizer.run sampleLines) = sampleEvents := by
  have hbody : Response.ofBytes? sampleBody =
      some ⟨[.text "Hello", .toolUse "t" "f" (.obj [("q", .int 1)])], ⟨3, 5⟩⟩ := by
    decide +kernel
  have hlines : sampleLines.filterMap lineEvent? =
      (blockEvents 0 (.text "He") [.text "llo"] ++
        blockEvents 1 (.toolUse "t" "f" .null)
          [.inputJson "\x7b\"q\"", .inputJson ":1\x7d"] ++ [.messageDelta ⟨3, 5⟩]) ++
      [.messageStop] := by
    simp only [sampleLines, List.filterMap_map, Function.comp_def, lineEvent?_append]
    decide +kernel
  have hstreams : Streams [.text "Hello", .toolUse "t" "f" (.obj [("q", .int 1)])]
      (blockEvents 0 (.text "He") [.text "llo"] ++
        blockEvents 1 (.toolUse "t" "f" .null)
          [.inputJson "\x7b\"q\"", .inputJson ":1\x7d"] ++ [.messageDelta ⟨3, 5⟩]) := by
    have htext := Delivers.text 0 "He" "Hello" [.text "llo"] (by simp [Delta.fragment?])
      (by decide +kernel)
    have hcall := Delivers.toolUse 1 "t" "f" .null (.obj [("q", .int 1)])
      [.inputJson "\x7b\"q\"", .inputJson ":1\x7d"] (by simp [Delta.text?])
      (Or.inl (by decide +kernel))
    exact ⟨_, .cons htext (.cons hcall .nil), rfl⟩
  obtain ⟨whole, hwhole, -, hagrees⟩ :=
    joined_run_of_blocks hbody hlines (Or.inr rfl) hstreams
  have hevents : decodeFull sampleBody = .ok sampleEvents := by
    rw [decodeFull, hbody]
    rfl
  rw [hevents, Except.ok.injEq] at hwhole
  subst hwhole
  exact ⟨hevents, (hagrees rfl).trans rfl⟩

end Anthropic

end Turnstile
