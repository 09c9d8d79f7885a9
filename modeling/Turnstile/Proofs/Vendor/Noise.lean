import Turnstile.Proofs.Vendor.Anthropic.Events
import Turnstile.Proofs.Vendor.Gemini.Responses
import Turnstile.Proofs.Vendor.OpenAI.Payloads
import Turnstile.Vendor.Chat
/-!
# Noise — lines that leave no trace

Between the events of a stream there are lines that are no news: blank
ones, comments, the names of events, data that cannot be read, and an
event of Anthropic's that says nothing or nothing known. A normalizer
ignores such a line in every state, whatever calls are open in it and
whatever has been counted (`Noise.ignores`). So wherever noise is put into
lines, the state after them is the same, each line is answered as it was,
and the noise is not answered (`Normalizer.inserted_answersFrom`).
-/

namespace Turnstile

/-! ## Insertion -/

/-- The second list is the first with items of a kind put in anywhere. -/
inductive Inserted {α : Type} (p : α → Prop) : List α → List α → Prop
  | nil : Inserted p [] []
  | keep (x : α) {xs ys : List α} (h : Inserted p xs ys) : Inserted p (x :: xs) (x :: ys)
  | insert {x : α} {xs ys : List α} (hx : p x) (h : Inserted p xs ys) : Inserted p xs (x :: ys)

namespace Inserted

variable {α : Type} {p q : α → Prop} {xs ys : List α}

theorem mono (hpq : ∀ x, p x → q x) (h : Inserted p xs ys) : Inserted q xs ys := by
  induction h with
  | nil => exact .nil
  | keep x _ ih => exact .keep x ih
  | insert hx _ ih => exact .insert (hpq _ hx) ih

theorem refl (xs : List α) : Inserted p xs xs := by
  induction xs with
  | nil => exact .nil
  | cons x xs ih => exact .keep x ih

/-- Items may be put in between others. -/
theorem between (before after : List α) {items : List α} (hitems : ∀ x ∈ items, p x) :
    Inserted p (before ++ after) (before ++ items ++ after) := by
  rw [List.append_assoc]
  induction before with
  | cons x before ih => exact .keep x ih
  | nil =>
    induction items with
    | nil => exact .refl after
    | cons x items ih =>
      obtain ⟨hx, hitems⟩ := List.forall_mem_cons.mp hitems
      exact .insert hx (ih hitems)

/-- Nothing put in anywhere adds nothing. -/
theorem flatten_eq {xss yss : List (List α)} (h : Inserted (· = []) xss yss) :
    yss.flatten = xss.flatten := by
  induction h with
  | nil => rfl
  | keep xs _ ih => rw [List.flatten_cons, List.flatten_cons, ih]
  | insert hx _ ih => rw [List.flatten_cons, hx, List.nil_append, ih]

end Inserted

/-! ## Lines that are ignored -/

namespace Normalizer

variable {n : Normalizer} {lines noisy : List String}

/-- A line changes nothing and is not answered, in whatever state. -/
def Ignores (n : Normalizer) (line : String) : Prop := ∀ s, n.onLine s line = (s, [])

/-- The state after lines is the same with ignored ones among them. -/
theorem feed_inserted (h : Inserted n.Ignores lines noisy) (s : n.State) :
    (n.feed s noisy).1 = (n.feed s lines).1 := by
  induction h generalizing s with
  | nil => rfl
  | keep line _ ih => exact ih (n.onLine s line).1
  | insert hline _ ih =>
    rw [feed, hline s]
    exact ih s

/-- **Every line is answered as it was**, and an ignored one with nothing. -/
theorem inserted_answersFrom (h : Inserted n.Ignores lines noisy) (s : n.State) :
    Inserted (· = []) (n.answersFrom s lines) (n.answersFrom s noisy) := by
  induction h generalizing s with
  | nil => exact .keep _ .nil
  | keep line _ ih => exact .keep _ (ih (n.onLine s line).1)
  | insert hline _ ih =>
    rw [answersFrom_cons, hline s]
    exact .insert rfl (ih s)

/-- So a run is the same with them. -/
theorem runFrom_inserted (h : Inserted n.Ignores lines noisy) (s : n.State) :
    n.runFrom s noisy = n.runFrom s lines := by
  rw [← flatten_answersFrom, ← flatten_answersFrom]
  exact (inserted_answersFrom h s).flatten_eq

end Normalizer

namespace Handler

variable {σ ε : Type} {h : Handler σ ε} {event? : String → Option ε} {start : σ} {line : String}

/-- A line is ignored if what it carries changes nothing and is not
answered. -/
theorem ignores_of_take (htake : ∀ s, h.take s (event? line) = (s, [])) :
    (h.normalizer event? start).Ignores line := by
  have honLine : ∀ s : σ, (h.normalizer event? start).onLine s line = (s, []) := by
    intro s
    rw [onLine_normalizer, htake, ite_self]
  exact honLine

theorem ignores_of_none (hline : event? line = none) :
    (h.normalizer event? start).Ignores line := by
  refine ignores_of_take fun s => ?_
  rw [hline]
  rfl

end Handler

/-- What is neither the end mark nor a chunk is no payload. -/
theorem OpenAI.Payload.ofString?_eq_none {s : String} (hend : Text.trim s ≠ "[DONE]")
    (hchunk : ((Doc.ofString? s).bind fun doc => (OpenAI.chunk .text doc).toOption) = none) :
    ofString? s = none := by
  rw [ofString?, if_neg hend]
  refine Option.bind_eq_none_iff.mpr fun doc hdoc => ?_
  rw [hdoc, Option.bind_some] at hchunk
  rw [hchunk]
  rfl

/-! ## Noise -/

namespace Vendor

/-- The data of a line is read as an event of the vendor's, or is the mark
that ends its streams. -/
def Reads : VendorKind → String → Prop
  | .anthropic, payload => (Anthropic.Event.ofString? payload).isSome
  | .openAI, payload | .compat, payload =>
    Text.trim payload = "[DONE]" ∨
      ((Doc.ofString? payload).bind fun doc => (OpenAI.chunk .text doc).toOption).isSome
  | .gemini, payload => (Gemini.Response.ofString? payload).isSome

/-- A line is noise in the streams of a vendor. -/
inductive Noise (kind : VendorKind) (line : String) : Prop
  /-- It has no data: it is blank, a comment or the name of an event. -/
  | dataless (h : ¬ "data:".toList <+: line.toList)
  /-- Its data is not read. -/
  | unread (payload : String) (hdata : EventLine.data? line = some payload)
      (h : ¬ Reads kind payload)
  /-- Its data is an event of Anthropic's that says nothing, or one that
  is not known. -/
  | idle (payload : String) (event : Anthropic.Event) (hdata : EventLine.data? line = some payload)
      (hkind : kind = .anthropic) (hevent : Anthropic.Event.ofString? payload = some event)
      (hidle : event = .ping ∨ event = .unknown)

variable {kind : VendorKind} {line : String}

/-- A line without data that is read is ignored. -/
theorem ignores_of_not_reads
    (h : ∀ payload, EventLine.data? line = some payload → ¬ Reads kind payload) :
    (normalizer kind).Ignores line := by
  cases kind with
  | anthropic =>
    rw [normalizer, Anthropic.normalizer_eq]
    refine Handler.ignores_of_none (Option.bind_eq_none_iff.mpr fun payload hdata => ?_)
    simpa [Reads] using h payload hdata
  | openAI | compat =>
    rw [normalizer, OpenAI.normalizer_eq]
    refine Handler.ignores_of_none (Option.bind_eq_none_iff.mpr fun payload hdata => ?_)
    have hnot := h payload hdata
    rw [Reads, not_or] at hnot
    exact OpenAI.Payload.ofString?_eq_none hnot.1 (Option.not_isSome_iff_eq_none.mp hnot.2)
  | gemini =>
    rw [normalizer, Gemini.normalizer_eq]
    refine Handler.ignores_of_none (Option.bind_eq_none_iff.mpr fun payload hdata => ?_)
    simpa [Reads] using h payload hdata

/-- **Noise is ignored in every state.** -/
theorem Noise.ignores (h : Noise kind line) : (normalizer kind).Ignores line := by
  cases h with
  | dataless hlead =>
    refine ignores_of_not_reads fun payload hdata => ?_
    rw [EventLine.data?_eq_none_iff.mpr hlead] at hdata
    cases hdata
  | unread payload hdata hnot =>
    refine ignores_of_not_reads fun payload' hdata' => ?_
    rw [hdata] at hdata'
    cases hdata'
    exact hnot
  | idle payload event hdata hkind hevent hidle =>
    subst hkind
    rw [normalizer, Anthropic.normalizer_eq]
    refine Handler.ignores_of_take fun p => ?_
    rw [Anthropic.lineEvent?, hdata, Option.bind_some, hevent]
    rcases hidle with rfl | rfl <;> rfl

/-- **Noise leaves no trace.** Wherever it is put into lines, they come to
the same events, the usage at their end among them. It is so from every
state on: the state reached is the same, and each line is answered as it
was, with empty answers between. And a line of noise leaves every state as
it is, its calls and counts included. -/
theorem noise_transparent (kind : VendorKind) {lines noisy : List String}
    (h : Inserted (Noise kind) lines noisy) :
    (normalizer kind).run noisy = (normalizer kind).run lines ∧
    (∀ s, ((normalizer kind).feed s noisy).1 = ((normalizer kind).feed s lines).1 ∧
      Inserted (· = []) ((normalizer kind).answersFrom s lines)
        ((normalizer kind).answersFrom s noisy)) ∧
    ∀ line, Noise kind line → ∀ s, (normalizer kind).onLine s line = (s, []) := by
  have hignored := h.mono fun _ => Noise.ignores
  refine ⟨Normalizer.runFrom_inserted hignored _, fun s => ?_, fun line hline => hline.ignores⟩
  exact ⟨Normalizer.feed_inserted hignored s, Normalizer.inserted_answersFrom hignored s⟩

/-- A call with its arguments in two pieces. -/
def callLines : List String :=
  ["\x7b\"type\":\"content_block_start\",\"index\":0," ++
      "\"content_block\":\x7b\"type\":\"tool_use\",\"id\":\"t\",\"name\":\"f\"\x7d\x7d",
    "\x7b\"type\":\"content_block_delta\",\"index\":0," ++
      "\"delta\":\x7b\"type\":\"input_json_delta\",\"partial_json\":\"[tr\"\x7d\x7d",
    "\x7b\"type\":\"content_block_delta\",\"index\":0," ++
      "\"delta\":\x7b\"type\":\"input_json_delta\",\"partial_json\":\"ue]\"\x7d\x7d",
    "\x7b\"type\":\"message_stop\"\x7d"].map ("data: " ++ ·)

/-- A blank line, a comment, the name of an event, data that is cut short,
a ping, and an event of another day. -/
def noiseLines : List String :=
  ["", ": keep alive", "event: ping", "data: " ++ "\x7b\"type\":\"pi",
    "data: " ++ "\x7b\"type\":\"ping\"\x7d", "data: " ++ "\x7b\"type\":\"tomorrow\"\x7d"]

/-- Between the pieces there may be all of these. -/
theorem noise_transparent_in_call :
    Inserted (Noise .anthropic) callLines
      (callLines.take 2 ++ noiseLines ++ callLines.drop 2) ∧
    (normalizer .anthropic).run (callLines.take 2 ++ noiseLines ++ callLines.drop 2) =
      [.toolCall (.make "t" "f" (.arr [.bool true])), .done .zero] := by
  have hnoise : ∀ line ∈ noiseLines, Noise .anthropic line := by
    simp only [noiseLines, List.forall_mem_cons]
    refine ⟨.dataless (by decide), .dataless (by decide), .dataless (by decide), ?_, ?_, ?_,
      List.forall_mem_nil _⟩
    · exact .unread _ (EventLine.data?_append _) (by rw [Reads]; decide +kernel)
    · exact .idle _ .ping (EventLine.data?_append _) rfl (by decide +kernel) (Or.inl rfl)
    · exact .idle _ .unknown (EventLine.data?_append _) rfl (by decide +kernel) (Or.inr rfl)
  have hinserted := Inserted.between (callLines.take 2) (callLines.drop 2) hnoise
  have hevents : callLines.filterMap Anthropic.lineEvent? =
      [.blockStart 0 (.toolUse "t" "f" .null), .blockDelta 0 (.inputJson "[tr"),
        .blockDelta 0 (.inputJson "ue]"), .messageStop] := by
    simp only [callLines, List.filterMap_map, Function.comp_def, Anthropic.lineEvent?_append]
    decide +kernel
  refine ⟨hinserted, (noise_transparent .anthropic hinserted).1.trans ?_⟩
  rw [List.take_append_drop, normalizer, Anthropic.run_eq_follow, hevents]
  decide +kernel

end Vendor

end Turnstile
