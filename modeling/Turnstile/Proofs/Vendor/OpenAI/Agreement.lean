import Turnstile.Proofs.Json.Equality
import Turnstile.Proofs.Stream.Tokens
import Turnstile.Proofs.Vendor.OpenAI.Payloads
import Turnstile.Proofs.Vendor.OpenAI.Pieces
/-!
# OpenAI — streams agree with whole completions

The one choice of a completion may be read whole or as a stream of pieces,
of its text and of its calls in any order, over any number of chunks. The
last piece may give a reason to finish, and then the calls are emitted
with it; otherwise they are when the stream ends. In either case nothing
but usage is emitted after them, so the events are those of the whole
completion up to how text is cut.
-/

namespace Turnstile

namespace OpenAI

/-! ## How a choice is streamed -/

/-- Chunks that stream a choice: its text, its calls and, with the last of
their pieces, possibly a reason to finish. -/
structure Streams (a : Answer) (chunks : List Chunk) : Prop where
  plain : ∀ c ∈ chunks, c.error = none ∧ c.usage = none
  first : ∀ d ∈ deltas chunks, d.index = 0
  finish : ∀ d ∈ (deltas chunks).dropLast, d.finishReason = none
  content : String.join ((deltas chunks).map fun d => d.content.getD "") =
    a.content.getD ""
  calls : Assembles a.calls ((deltas chunks).flatMap (·.calls))

/-- The chunk of a usage, where there is one. -/
def usageChunk (usage : Option Usage) : List Payload :=
  usage.toList.map fun u => .chunk ⟨[], some u, none⟩

/-! ## Pieces of a choice -/

namespace Progress

variable {p : Progress} {ds : List ChoiceDelta}

theorem tokens_eq (content : Option String) :
    tokens content = ChatEvent.ofText (content.getD "") := by
  cases content <;> rfl

/-- The same with other slots. -/
def withCalls (p : Progress) (calls : Assembly) : Progress := { p with calls }

/-- The slots after the pieces of calls in these pieces. -/
def assembled (p : Progress) (ds : List ChoiceDelta) : Assembly :=
  (ds.flatMap (·.calls)).foldl addCall p.calls

/-- A piece is answered by its text and, if it gives a reason to finish, by
the calls. -/
theorem handleChoice_eq {d : ChoiceDelta} (hfirst : d.index = 0) :
    p.handleChoice d =
      if d.finishReason.isSome then
        (p.withCalls .empty,
          tokens d.content ++ (p.assembled [d]).finishAll.2.map .toolCall)
      else (p.withCalls (p.assembled [d]), tokens d.content) := by
  have hassembled : p.assembled [d] = d.calls.foldl addCall p.calls := by
    rw [assembled, List.flatMap_cons, List.flatMap_nil, List.append_nil]
  rw [handleChoice, if_neg (by simp [hfirst]), hassembled]
  split <;> rfl

theorem assembled_append (ds ds' : List ChoiceDelta) :
    (p.withCalls (p.assembled ds)).assembled ds' = p.assembled (ds ++ ds') := by
  rw [assembled, assembled, assembled, List.flatMap_append, List.foldl_append]
  rfl

/-- Pieces without a reason to finish are answered by their text. -/
theorem handleChoices_of_unfinished (hfirst : ∀ d ∈ ds, d.index = 0)
    (hfinish : ∀ d ∈ ds, d.finishReason = none) :
    p.handleChoices ds = (p.withCalls (p.assembled ds), ds.flatMap fun d => tokens d.content) := by
  induction ds generalizing p with
  | nil => rfl
  | cons d ds ih =>
    have hchoice : p.handleChoice d = (p.withCalls (p.assembled [d]), tokens d.content) := by
      rw [handleChoice_eq (hfirst d List.mem_cons_self),
        if_neg (by simp [hfinish d List.mem_cons_self])]
    have hrest := ih (p := p.withCalls (p.assembled [d]))
      (fun d' hd => hfirst d' (List.mem_cons_of_mem d hd))
      (fun d' hd => hfinish d' (List.mem_cons_of_mem d hd))
    rw [assembled_append] at hrest
    rw [handleChoices, hchoice]
    simp only [hrest]
    rfl

/-- The last piece may give a reason to finish, and the calls come with it. -/
theorem handleChoices_eq (hfirst : ∀ d ∈ ds, d.index = 0)
    (hfinish : ∀ d ∈ ds.dropLast, d.finishReason = none) :
    p.handleChoices ds = (p.withCalls (p.assembled ds), ds.flatMap fun d => tokens d.content) ∨
    p.handleChoices ds = (p.withCalls .empty, (ds.flatMap fun d => tokens d.content) ++
      (p.assembled ds).finishAll.2.map .toolCall) := by
  -- only the last piece may finish, so it is looked at alone
  rcases List.eq_nil_or_concat' ds with rfl | ⟨before, d, rfl⟩
  · exact Or.inl rfl
  · rw [List.dropLast_concat] at hfinish
    have hbefore := handleChoices_of_unfinished (p := p)
      (fun d' hd => hfirst d' (List.mem_append_left _ hd)) hfinish
    have hlast := handleChoice_eq (p := p.withCalls (p.assembled before))
      (hfirst d (List.mem_append_right _ List.mem_cons_self))
    rw [assembled_append] at hlast
    rw [handleChoices_append, hbefore]
    simp only [handleChoices, hlast, List.flatMap_append, List.flatMap_cons, List.flatMap_nil,
      List.append_nil]
    split
    · right
      rw [List.append_assoc]
      rfl
    · exact Or.inl rfl

/-- **However the calls come**, with a reason to finish or at the end, a
stream that ends after these pieces has answered them with their text and
then the calls. -/
theorem handleChoices_finish (hfirst : ∀ d ∈ ds, d.index = 0)
    (hfinish : ∀ d ∈ ds.dropLast, d.finishReason = none) (usage : Usage) :
    (p.handleChoices ds).2 ++ ({ (p.handleChoices ds).1 with usage } : Progress).finish.2 =
      (ds.flatMap fun d => tokens d.content) ++
        ((p.assembled ds).finishAll.2.map .toolCall ++ [.done usage]) := by
  rcases handleChoices_eq (p := p) hfirst hfinish with heq | heq
  · rw [heq]
    rfl
  · rw [heq, List.append_assoc]
    rfl

end Progress

/-! ## Completions -/

variable {p : Progress} {tail : List Payload}

/-- The end mark, whatever follows it, and the end of the body both finish. -/
theorem follow_tail (hp : p.finished = false) (htail : tail = [] ∨ tail.head? = some .done) :
    handler.follow p tail = p.finish.2 := by
  rcases htail with rfl | htail
  · rw [Handler.follow, Handler.onEnd_of_open hp]
    rfl
  · obtain ⟨rest, rfl⟩ := List.head?_eq_some_iff.mp htail
    have hrest : handler.follow p.finish.1 rest = [] := Handler.follow_of_finished rfl rest
    rw [Handler.follow_cons hp]
    change p.finish.2 ++ handler.follow p.finish.1 rest = _
    rw [hrest, List.append_nil]

/-- Where nothing was reported before, the usage of its chunk is the
stream's. -/
theorem follow_usageChunk (hp : p.finished = false) (hzero : p.usage = .zero)
    (usage : Option Usage) (htail : tail = [] ∨ tail.head? = some .done) :
    handler.follow p (usageChunk usage ++ tail) =
      ({ p with usage := usage.getD .zero } : Progress).finish.2 := by
  cases usage with
  | none =>
    have hsame : ({ p with usage := Option.getD none .zero } : Progress) = p := by
      rw [Option.getD_none, ← hzero]
    rw [hsame]
    exact follow_tail hp htail
  | some u =>
    have hmerge : (p.usage.merge u) = u := by rw [hzero, Usage.zero_merge]
    have hrest : handler.follow { p with usage := p.usage.merge u } tail = _ := follow_tail hp htail
    rw [hmerge] at hrest
    have hhandle : handler.handle p (.chunk ⟨[], some u, none⟩) =
        ({ p with usage := p.usage.merge u }, []) :=
      rfl
    rw [usageChunk, Option.toList_some, List.map_singleton, List.singleton_append,
      Handler.follow_cons hp, hhandle, hmerge, hrest]
    rfl

/-- **A streamed completion agrees with the completion read whole**: the
events are the same up to how text is cut. After the pieces comes the
usage, if the completion has one, and the stream ends with its end mark,
whatever follows that, or with the body. -/
theorem joined_run_of_deltas {body : Bytes} {a : Answer} {usage : Option Usage}
    {lines : List String} {chunks : List Chunk}
    (hbody : Completion.ofBytes? body = some ⟨[a], usage⟩)
    (hlines : lines.filterMap linePayload? = chunks.map .chunk ++ (usageChunk usage ++ tail))
    (htail : tail = [] ∨ tail.head? = some .done) (hstreams : Streams a chunks) :
    ∃ whole, decodeFull body = .ok whole ∧
      ChatEvent.joined (normalizer.run lines) = ChatEvent.joined whole := by
  have hkeeps : ∀ e ∈ chunks.map Payload.chunk, handler.Keeps e := by
    intro e he
    obtain ⟨c, hc, rfl⟩ := List.mem_map.mp he
    exact keeps_chunk (hstreams.plain c hc).1
  have hsame := Progress.start.handleChoices_same (deltas chunks)
  have hrun : normalizer.run lines =
      ((deltas chunks).flatMap fun d => Progress.tokens d.content) ++
        (a.calls.map (fun c => ChatEvent.toolCall c.toToolCall) ++ [.done (usage.getD .zero)]) := by
    have hcalls : (Progress.start.assembled (deltas chunks)).finishAll.2 =
        a.calls.map Call.toToolCall :=
      finishAll_foldl_addCall hstreams.calls
    rw [run_eq_follow, hlines, Handler.follow_append hkeeps rfl,
      through_chunks _ hstreams.plain, follow_usageChunk hsame.1 hsame.2 usage htail,
      Progress.handleChoices_finish hstreams.first hstreams.finish, hcalls, List.map_map]
    rfl
  -- the text of the pieces is the text of the choice
  have htext (more : List ChatEvent) :
      ChatEvent.joined (((deltas chunks).flatMap fun d =>
        Progress.tokens d.content) ++ more) =
      ChatEvent.joined (Progress.tokens a.content ++ more) := by
    have hpieces := ChatEvent.joined_pieces
      ((deltas chunks).map fun d => d.content.getD "") more
    rw [List.flatMap_map, hstreams.content] at hpieces
    simpa only [Progress.tokens_eq] using hpieces
  refine ⟨_, by rw [decodeFull, hbody], ?_⟩
  rw [hrun, htext, Completion.events, List.append_assoc]

/-- A completion of a text and two calls. -/
def sampleBody : Bytes :=
  Utf8.encode ("\x7b\"choices\":[\x7b\"message\":\x7b\"content\":\"Hi\",\"tool_calls\":[" ++
    "\x7b\"id\":\"t\",\"function\":" ++
    "\x7b\"name\":\"f\",\"arguments\":\"\x7b\\\"a\\\":1\x7d\"\x7d\x7d," ++
    "\x7b\"id\":\"u\",\"function\":\x7b\"name\":\"g\"\x7d\x7d]\x7d\x7d]," ++
    "\"usage\":\x7b\"prompt_tokens\":3,\"completion_tokens\":5\x7d\x7d")

/-- Its choice. -/
def sampleAnswer : Answer :=
  ⟨some "Hi", [⟨"t", "f", "\x7b\"a\":1\x7d"⟩, ⟨"u", "g", ""⟩]⟩

/-- The same streamed, the calls interleaved. -/
def sampleLines : List String :=
  ["\x7b\"choices\":[\x7b\"delta\":\x7b\"content\":\"H\",\"tool_calls\":[" ++
      "\x7b\"index\":0,\"id\":\"t\",\"function\":" ++
      "\x7b\"name\":\"f\",\"arguments\":\"\x7b\\\"a\\\"\"\x7d\x7d," ++
      "\x7b\"index\":1,\"id\":\"u\"\x7d]\x7d\x7d]\x7d",
    "\x7b\"choices\":[\x7b\"delta\":\x7b\"content\":\"i\",\"tool_calls\":[" ++
      "\x7b\"index\":1,\"function\":\x7b\"name\":\"g\"\x7d\x7d," ++
      "\x7b\"index\":0,\"function\":\x7b\"arguments\":\":1\x7d\"\x7d\x7d]\x7d," ++
      "\"finish_reason\":\"tool_calls\"\x7d]\x7d",
    "\x7b\"usage\":\x7b\"prompt_tokens\":3,\"completion_tokens\":5\x7d\x7d",
    "[DONE]"].map ("data: " ++ ·)

/-- The chunks of these lines before the one of the usage. -/
def sampleChunks : List Chunk :=
  [⟨[⟨0, some "H", [⟨0, some "t", some "f", some "\x7b\"a\""⟩, ⟨1, some "u", none, none⟩], none⟩],
      none, none⟩,
    ⟨[⟨0, some "i", [⟨1, none, some "g", none⟩, ⟨0, none, none, some ":1\x7d"⟩],
      some "tool_calls"⟩], none, none⟩]

/-- What that completion says. -/
def sampleEvents : List ChatEvent :=
  [.token "Hi", .toolCall ⟨"t", "f", .obj [("a", .int 1)]⟩, .toolCall ⟨"u", "g", .empty⟩,
    .done ⟨3, 5⟩]

/-- The stream of a text and two calls, interleaved, agrees with them. -/
theorem joined_run_of_deltas_sample :
    decodeFull sampleBody = .ok sampleEvents ∧
      ChatEvent.joined (normalizer.run sampleLines) = sampleEvents := by
  have hbody : Completion.ofBytes? sampleBody = some ⟨[sampleAnswer], some ⟨3, 5⟩⟩ := by
    decide +kernel
  have hlines : sampleLines.filterMap linePayload? =
      sampleChunks.map .chunk ++ (usageChunk (some ⟨3, 5⟩) ++ [.done]) := by
    simp only [sampleLines, List.filterMap_map, Function.comp_def, linePayload?_append]
    decide +kernel
  have hcalls : Assembles sampleAnswer.calls ((deltas sampleChunks).flatMap (·.calls)) := by
    refine ⟨by decide, fun k c hc => ?_⟩
    match k with
    | 0 =>
      cases hc
      exact ⟨by decide, ⟨by decide, by decide⟩, ⟨by decide, by decide⟩, by decide +kernel⟩
    | 1 =>
      cases hc
      exact ⟨by decide, ⟨by decide, by decide⟩, ⟨by decide, by decide⟩, by decide +kernel⟩
    | k + 2 => cases hc
  have hstreams : Streams sampleAnswer sampleChunks :=
    ⟨by decide, by decide, by decide, by decide +kernel, hcalls⟩
  obtain ⟨whole, hwhole, hagrees⟩ := joined_run_of_deltas hbody hlines (Or.inr rfl) hstreams
  have hevents : decodeFull sampleBody = .ok sampleEvents := by
    rw [decodeFull, hbody]
    refine congrArg Except.ok ?_
    decide +kernel
  rw [hevents, Except.ok.injEq] at hwhole
  subst hwhole
  exact ⟨hevents, hagrees.trans rfl⟩

end OpenAI

end Turnstile
