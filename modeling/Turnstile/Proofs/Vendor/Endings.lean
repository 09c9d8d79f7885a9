import Turnstile.Proofs.Stream.Ending
import Turnstile.Proofs.Vendor.Anthropic.Events
import Turnstile.Proofs.Vendor.Gemini.Responses
import Turnstile.Proofs.Vendor.OpenAI.Payloads
import Turnstile.Vendor.Chat
/-!
# Endings — every vendor's normalizer ends a stream once

A pump cuts what follows the first terminal event, and makes up for one
that is missing. A vendor's normalizer leaves it nothing to cut or to make
up for. What it is about is said of one event (`Handler.Concludes`): the
event is answered by others that go on and leaves the stream open, or is
answered by an ending and finishes it. So in the answers to any lines
there is one that ends the stream, those before it go on, and those after
it are empty (`Handler.Concludes.endsIn_replies`).
-/

namespace Turnstile

namespace ChatEvent

theorem quiet_singleton {e : ChatEvent} (he : e.isTerminal = false) : Quiet [e] :=
  quiet_cons.mpr ⟨he, quiet_nil⟩

theorem quiet_calls {α : Type} (call : α → ToolCall) (xs : List α) :
    Quiet (xs.map fun x => .toolCall (call x)) := by
  intro e he
  obtain ⟨x, -, rfl⟩ := List.mem_map.mp he
  rfl

/-- One of the answers ends the stream. Those before it go on, and those
after it are empty. -/
def EndsIn (answers : List (List ChatEvent)) : Prop :=
  ∃ before ending after, answers = before ++ ending :: after ∧
    (∀ es ∈ before, Quiet es) ∧ EndsOnce ending ∧ ∀ es ∈ after, es = []

theorem EndsIn.now {es : List ChatEvent} {answers : List (List ChatEvent)} (hes : EndsOnce es)
    (hafter : ∀ fs ∈ answers, fs = []) : EndsIn (es :: answers) :=
  ⟨[], es, answers, rfl, List.forall_mem_nil _, hes, hafter⟩

theorem EndsIn.later {es : List ChatEvent} {answers : List (List ChatEvent)} (hes : Quiet es)
    (h : EndsIn answers) : EndsIn (es :: answers) := by
  obtain ⟨before, ending, after, rfl, hbefore, hending, hafter⟩ := h
  refine ⟨es :: before, ending, after, rfl, fun fs hfs => ?_, hending, hafter⟩
  rcases List.mem_cons.mp hfs with rfl | hfs
  · exact hes
  · exact hbefore fs hfs

/-- **Answers of which one ends the stream** end it once together. -/
theorem EndsIn.endsOnce {answers : List (List ChatEvent)} (h : EndsIn answers) :
    EndsOnce answers.flatten := by
  obtain ⟨before, ending, after, rfl, hbefore, ⟨quiet, last, rfl, hquiet, hlast⟩, hafter⟩ := h
  have hnone : after.flatten = [] := List.flatten_eq_nil_iff.mpr hafter
  have hall : Quiet (before.flatten ++ quiet) := by
    refine quiet_append.mpr ⟨fun e he => ?_, hquiet⟩
    obtain ⟨es, hes, he⟩ := List.mem_flatten.mp he
    exact hbefore es hes e he
  refine ⟨before.flatten ++ quiet, last, ?_, hall, hlast⟩
  rw [List.flatten_append, List.flatten_cons, hnone, List.append_nil, List.append_assoc]

end ChatEvent

open ChatEvent

namespace Handler

variable {σ ε : Type} {h : Handler σ ε} {s : σ}

/-- What an event comes to: others that go on, or an ending. It finishes
the stream exactly if it is the ending. -/
def Outcome (h : Handler σ ε) (next : σ × List ChatEvent) : Prop :=
  Quiet next.2 ∧ h.finished next.1 = false ∨ EndsOnce next.2 ∧ h.finished next.1 = true

/-- The handler concludes a stream. -/
structure Concludes (h : Handler σ ε) : Prop where
  handle : ∀ s e, h.finished s = false → h.Outcome (h.handle s e)
  close : ∀ s, h.finished s = false → EndsOnce (h.close s)

/-- Nothing is answered once the stream is finished. -/
theorem replies_of_finished (hs : h.finished s = true) (xs : List (Option ε)) :
    ∀ es ∈ h.replies s xs, es = [] := by
  intro es hes
  induction xs with
  | nil =>
    rw [replies, onEnd_of_finished hs] at hes
    exact List.mem_singleton.mp hes
  | cons x xs ih =>
    rw [replies_cons_of_finished hs] at hes
    rcases List.mem_cons.mp hes with rfl | hes
    · rfl
    · exact ih hes

/-- What a line carries has an outcome too, if it is nothing. -/
theorem Concludes.take (hh : h.Concludes) (hs : h.finished s = false) (x : Option ε) :
    h.Outcome (h.take s x) := by
  cases x with
  | none => exact Or.inl ⟨quiet_nil, hs⟩
  | some e => exact hh.handle s e hs

/-- **One reply ends the stream**: that to an event which does, or else
that to the end of the body. -/
theorem Concludes.endsIn_replies (hh : h.Concludes) (hs : h.finished s = false)
    (xs : List (Option ε)) : EndsIn (h.replies s xs) := by
  induction xs generalizing s with
  | nil =>
    rw [replies, onEnd_of_open hs]
    exact .now (hh.close s hs) (List.forall_mem_nil _)
  | cons x xs ih =>
    rw [replies_cons hs]
    rcases hh.take hs x with ⟨hquiet, hopen⟩ | ⟨hends, hfinished⟩
    · exact .later hquiet (ih hopen)
    · exact .now hends (replies_of_finished hfinished xs)

/-- So it does in what a normalizer answers to lines. -/
theorem Concludes.endsIn_answers (hh : h.Concludes) (event? : String → Option ε)
    (hs : h.finished s = false) (lines : List String) :
    EndsIn ((h.normalizer event? s).answers lines) := by
  have hanswers : (h.normalizer event? s).answers lines = h.replies s (lines.map event?) :=
    h.answersFrom_eq_replies event? s s lines
  rw [hanswers]
  exact hh.endsIn_replies hs _

end Handler

/-! ## Anthropic -/

namespace Anthropic

namespace Progress

theorem quiet_tokens (text : String) : Quiet (tokens text) := by
  rw [tokens]
  split
  · exact quiet_nil
  · exact quiet_singleton rfl

theorem endsOnce_finish (p : Progress) : EndsOnce p.finish.2 :=
  ⟨_, _, rfl, quiet_calls _ _, rfl⟩

end Progress

theorem ContentBlock.quiet_events (block : ContentBlock) : Quiet block.events := by
  cases block with
  | text s => exact Progress.quiet_tokens s
  | toolUse id name input => exact quiet_singleton rfl
  | unknown => exact quiet_nil

/-- A message that stops ends the stream, as an error does, and nothing
else. -/
theorem concludes_handler : handler.Concludes where
  handle p e hp := by
    cases e with
    | messageStart usage | messageDelta usage => exact Or.inl ⟨quiet_nil, hp⟩
    | blockStart index block =>
      cases block with
      | text text => exact Or.inl ⟨Progress.quiet_tokens text, hp⟩
      | toolUse id name input | unknown => exact Or.inl ⟨quiet_nil, hp⟩
    | blockDelta index delta =>
      cases delta with
      | text text => exact Or.inl ⟨Progress.quiet_tokens text, hp⟩
      | inputJson fragment | unknown => exact Or.inl ⟨quiet_nil, hp⟩
    | blockStop index => exact Or.inl ⟨quiet_calls _ _, hp⟩
    | messageStop => exact Or.inr ⟨p.endsOnce_finish, rfl⟩
    | error kind message => exact Or.inr ⟨⟨[], _, rfl, quiet_nil, rfl⟩, rfl⟩
    | ping | unknown => exact Or.inl ⟨quiet_nil, hp⟩
  close p _ := p.endsOnce_finish

theorem Response.endsOnce_events (r : Response) : EndsOnce r.events := by
  have hcontent : Quiet (r.content.flatMap ContentBlock.events) := by
    intro e he
    obtain ⟨block, -, he⟩ := List.mem_flatMap.mp he
    exact block.quiet_events e he
  exact ⟨_, _, rfl, hcontent, rfl⟩

end Anthropic

/-! ## OpenAI -/

namespace OpenAI

namespace Progress

theorem quiet_tokens (content : Option String) : Quiet (tokens content) := by
  rw [tokens.eq_def]
  split
  · split
    · exact quiet_nil
    · exact quiet_singleton rfl
  · exact quiet_nil

theorem quiet_handleChoice (p : Progress) (c : ChoiceDelta) : Quiet (p.handleChoice c).2 := by
  rw [handleChoice]
  split
  · exact quiet_nil
  · dsimp only
    split
    · exact quiet_append.mpr ⟨quiet_tokens _, quiet_calls _ _⟩
    · exact quiet_tokens _

theorem quiet_handleChoices (p : Progress) (cs : List ChoiceDelta) :
    Quiet (p.handleChoices cs).2 := by
  induction cs generalizing p with
  | nil => exact quiet_nil
  | cons c cs ih => exact quiet_append.mpr ⟨p.quiet_handleChoice c, ih _⟩

theorem endsOnce_finish (p : Progress) : EndsOnce p.finish.2 :=
  ⟨_, _, rfl, quiet_calls _ _, rfl⟩

end Progress

/-- The end mark ends the stream, as an error does, and nothing else. -/
theorem concludes_handler : handler.Concludes where
  handle p payload hp := by
    cases payload with
    | done => exact Or.inr ⟨p.endsOnce_finish, rfl⟩
    | chunk c =>
      change handler.Outcome (p.handle c)
      rw [Progress.handle]
      cases c.error with
      | some message => exact Or.inr ⟨⟨[], _, rfl, quiet_nil, rfl⟩, rfl⟩
      | none =>
        refine Or.inl ⟨Progress.quiet_handleChoices _ _, ?_⟩
        exact (Progress.handleChoices_same _ _).1.trans hp
  close p _ := p.endsOnce_finish

theorem Completion.endsOnce_events (c : Completion) : EndsOnce c.events := by
  refine ⟨_, _, rfl, ?_, rfl⟩
  split
  · exact quiet_nil
  · exact quiet_append.mpr ⟨Progress.quiet_tokens _, quiet_calls _ _⟩

end OpenAI

/-! ## Gemini -/

namespace Gemini

namespace Progress

theorem quiet_handlePart (p : Progress) (part : ResponsePart) : Quiet (p.handlePart part).2 := by
  cases part with
  | text s thought =>
    rw [handlePart]
    dsimp only
    split
    · exact quiet_nil
    · exact quiet_singleton rfl
  | call c => exact quiet_singleton rfl
  | other => exact quiet_nil

theorem quiet_handleParts (p : Progress) (parts : List ResponsePart) :
    Quiet (p.handleParts parts).2 := by
  induction parts generalizing p with
  | nil => exact quiet_nil
  | cons part parts ih => exact quiet_append.mpr ⟨p.quiet_handlePart part, ih _⟩

end Progress

/-- An error ends the stream, and nothing else before the body does. -/
theorem concludes_handler : handler.Concludes where
  handle p r hp := by
    change handler.Outcome (p.handle r)
    cases herror : r.error with
    | some error =>
      rw [Progress.handle, herror]
      exact Or.inr ⟨⟨[], _, rfl, quiet_nil, rfl⟩, rfl⟩
    | none =>
      rw [Progress.handle_eq herror]
      refine Or.inl ⟨p.quiet_handleParts _, ?_⟩
      exact (p.handleParts_same _).1.trans hp
  close p _ := ⟨[], _, rfl, quiet_nil, rfl⟩

/-- A response that is read whole is answered like a stream of one. -/
theorem Response.endsOnce_events (r : Response) : EndsOnce r.events := by
  have hends := concludes_handler.endsIn_replies (s := .start) rfl [some r]
  have hevents : (handler.replies .start [some r]).flatten = r.events := by
    rw [Handler.replies_cons rfl, List.flatten_cons, Handler.replies, List.flatten_singleton]
    rfl
  exact hevents ▸ hends.endsOnce

end Gemini

/-! ## Every vendor -/

namespace Vendor

/-- What lines are answered has one ending. -/
theorem endsIn_answers (kind : VendorKind) (lines : List String) :
    EndsIn ((normalizer kind).answers lines) := by
  cases kind with
  | anthropic =>
    rw [normalizer, Anthropic.normalizer_eq]
    exact Anthropic.concludes_handler.endsIn_answers _ rfl lines
  | openAI | compat =>
    rw [normalizer, OpenAI.normalizer_eq]
    exact OpenAI.concludes_handler.endsIn_answers _ rfl lines
  | gemini =>
    rw [normalizer, Gemini.normalizer_eq]
    exact Gemini.concludes_handler.endsIn_answers _ rfl lines

/-- A body that is read whole is not understood, or has one ending. -/
theorem decodeFull_cases (kind : VendorKind) (body : Bytes) :
    (∃ text, decodeFull kind body = .error (.decode text)) ∨
      ∃ events, decodeFull kind body = .ok events ∧ EndsOnce events := by
  cases kind with
  | anthropic =>
    rw [decodeFull, Anthropic.decodeFull]
    cases Anthropic.Response.ofBytes? body with
    | none => exact Or.inl ⟨_, rfl⟩
    | some r => exact Or.inr ⟨_, rfl, r.endsOnce_events⟩
  | openAI | compat =>
    rw [decodeFull, OpenAI.decodeFull]
    cases OpenAI.Completion.ofBytes? body with
    | none => exact Or.inl ⟨_, rfl⟩
    | some c => exact Or.inr ⟨_, rfl, c.endsOnce_events⟩
  | gemini =>
    rw [decodeFull, Gemini.decodeFull]
    cases Gemini.Response.ofBytes? body with
    | none => exact Or.inl ⟨_, rfl⟩
    | some r => exact Or.inr ⟨_, rfl, r.endsOnce_events⟩

/-- **Every vendor's answer ends exactly once.** Of what any lines are
answered, with the end of the body after them, there is one terminal event
and it comes last: the answers before the one with it go on, and those
after it are empty. So it is with a body that is read whole, if it is
understood at all. -/
theorem concludes_once (kind : VendorKind) :
    (∀ lines, EndsIn ((normalizer kind).answers lines) ∧
      EndsOnce ((normalizer kind).run lines)) ∧
    ∀ body, (∃ text, decodeFull kind body = .error (.decode text)) ∨
      ∃ events, decodeFull kind body = .ok events ∧ EndsOnce events := by
  refine ⟨fun lines => ?_, decodeFull_cases kind⟩
  have hends := endsIn_answers kind lines
  have hrun : ((normalizer kind).answers lines).flatten = (normalizer kind).run lines :=
    Normalizer.flatten_answersFrom _ _ lines
  exact ⟨hends, hrun ▸ hends.endsOnce⟩

end Vendor

end Turnstile
