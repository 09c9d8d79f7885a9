import Turnstile.Proofs.Json.Equality
import Turnstile.Proofs.Tool.Arguments
import Turnstile.Proofs.Vendor.OpenAI.Agreement
import Mathlib.Data.List.Dedup
import Mathlib.Data.List.Sort
/-!
# OpenAI — streams told by segments

Any stream of chunks is told by the pieces of its first choice, cut into
segments at each one that gives a reason to finish (`Cut`). The events of a
segment are its text and then one call for each index its pieces name, put
together from the pieces of that index in the segment alone
(`segmentEvents`), and the events of the stream are those of its segments
and the usage (`run_eq_segments`). Every piece is in one segment, so no
call is lost, repeated or mixed with another.
-/

namespace Turnstile

namespace OpenAI

/-! ## Segments -/

/-- The pieces of the first choice. -/
def firstDeltas (chunks : List Chunk) : List ChoiceDelta :=
  (deltas chunks).filter (·.index = 0)

/-- **A cut into segments**: every piece is in one of them, in order, each
but the last ends with the one piece of it that gives a reason to finish,
and the last has none. -/
structure Cut (ds : List ChoiceDelta) (closed : List (List ChoiceDelta))
    (rest : List ChoiceDelta) : Prop where
  whole : closed.flatten ++ rest = ds
  closed : ∀ s ∈ closed, ∃ before last, s = before ++ [last] ∧ last.finishReason.isSome = true ∧
    ∀ d ∈ before, d.finishReason = none
  rest : ∀ d ∈ rest, d.finishReason = none

/-- Pieces cut after each one that gives a reason to finish, where some are
there already. What follows the last cut is a segment too. -/
def segments (begun : List ChoiceDelta) : List ChoiceDelta → List (List ChoiceDelta)
  | [] => [begun]
  | d :: ds =>
    if d.finishReason.isSome then (begun ++ [d]) :: segments [] ds else segments (begun ++ [d]) ds

theorem cut_segments (begun ds : List ChoiceDelta) (hbegun : ∀ d ∈ begun, d.finishReason = none) :
    ∃ closed rest, segments begun ds = closed ++ [rest] ∧ Cut (begun ++ ds) closed rest := by
  induction ds generalizing begun with
  | nil => exact ⟨[], begun, rfl, by simp, fun s hs => (nomatch hs), hbegun⟩
  | cons d ds ih =>
    rw [segments]
    split
    · rename_i hfinish
      obtain ⟨closed, rest, heq, hcut⟩ := ih [] fun d hd => nomatch hd
      refine ⟨(begun ++ [d]) :: closed, rest, by rw [heq]; rfl, ?_, fun s hs => ?_, hcut.rest⟩
      · rw [List.flatten_cons, List.append_assoc, hcut.whole]
        simp
      · rcases List.mem_cons.mp hs with rfl | hs
        · exact ⟨begun, d, rfl, hfinish, hbegun⟩
        · exact hcut.closed s hs
    · rename_i hfinish
      have hopen : ∀ d' ∈ begun ++ [d], d'.finishReason = none := by
        intro d' hd
        rcases List.mem_append.mp hd with hd | hd
        · exact hbegun d' hd
        · rw [List.mem_singleton.mp hd]
          simpa using hfinish
      obtain ⟨closed, rest, heq, hcut⟩ := ih (begun ++ [d]) hopen
      rw [List.append_assoc] at hcut
      exact ⟨closed, rest, heq, hcut⟩

/-! ## What a segment tells -/

/-- The last of some texts that is not empty, and no text if there is none. -/
def lastSaid (texts : List (Option String)) : String :=
  (texts.filterMap fun text => text.filter (!·.isEmpty)).getLastD ""

/-- The call of an index, put together from its pieces. -/
def callOf (pieces : List CallDelta) : ToolCall where
  id := lastSaid (pieces.map (·.id))
  name := lastSaid (pieces.map (·.name))
  input := inputOf (String.join (pieces.filterMap (·.arguments)))

/-- The indices of pieces, each once and in order. -/
def indices (pieces : List CallDelta) : List Nat :=
  (pieces.map (·.index)).dedup.insertionSort (· ≤ ·)

/-- The calls of pieces, one for each index. -/
def callsOf (pieces : List CallDelta) : List ToolCall :=
  (indices pieces).map fun k => callOf (pieces.filter (·.index = k))

/-- The texts of pieces that are not empty. -/
def contents (ds : List ChoiceDelta) : List String :=
  ds.filterMap fun d => d.content.filter (!·.isEmpty)

/-- **The events of a segment**: its text, then its calls. -/
def segmentEvents (segment : List ChoiceDelta) : List ChatEvent :=
  (contents segment).map .token ++ (callsOf (segment.flatMap (·.calls))).map .toolCall

/-! ## Calls of a segment -/

theorem hear_eq (known : String) (text : Option String) :
    hear known text = (text.filter (!·.isEmpty)).getD known :=
  congrArg CallSlot.id (CallSlot.identify_eq ⟨known, "", ""⟩ text none)

theorem foldl_hear_eq (texts : List (Option String)) (known : String) :
    texts.foldl hear known =
      (texts.filterMap fun text => text.filter (!·.isEmpty)).getLastD known := by
  induction texts generalizing known with
  | nil => rfl
  | cons text texts ih =>
    rw [List.foldl_cons, ih, hear_eq]
    cases hsaid : text.filter (!·.isEmpty) with
    | none => rw [List.filterMap_cons_none hsaid, Option.getD_none]
    | some said => rw [List.filterMap_cons_some hsaid, Option.getD_some, List.getLastD_cons]

theorem join_arguments (pieces : List CallDelta) :
    String.join (pieces.map fun d => d.arguments.getD "") =
      String.join (pieces.filterMap (·.arguments)) := by
  induction pieces with
  | nil => rfl
  | cons d pieces ih =>
    cases hd : d.arguments <;> simp [hd, ih]

theorem call_foldl_fill (pieces : List CallDelta) :
    (pieces.foldl (fun slot d => d.fill slot) CallSlot.blank).call = callOf pieces := by
  rw [foldl_fill_eq, CallSlot.call, ToolCall.make_parseArguments, join_arguments]
  simp only [CallSlot.blank, foldl_hear_eq, String.empty_append]
  rfl

theorem mem_indices {pieces : List CallDelta} {k : Nat} :
    k ∈ indices pieces ↔ ∃ d ∈ pieces, d.index = k := by
  rw [indices, List.mem_insertionSort, List.mem_dedup, List.mem_map]

theorem pairwise_indices (pieces : List CallDelta) : (indices pieces).Pairwise (· < ·) := by
  have hsorted : (indices pieces).Pairwise (· ≤ ·) := List.pairwise_insertionSort _ _
  have hnodup : (indices pieces).Nodup :=
    (List.perm_insertionSort _ _).nodup_iff.mpr (List.nodup_dedup _)
  exact hsorted.imp₂ (fun _ _ hle hne => Nat.lt_of_le_of_ne hle hne) hnodup

/-- The slots that pieces fill are one for each index. -/
theorem slots_foldl_addCall (pieces : List CallDelta) :
    (pieces.foldl Progress.addCall .empty).slots =
      (indices pieces).map fun k =>
        (k, (pieces.filter (·.index = k)).foldl (fun slot d => d.fill slot) CallSlot.blank) := by
  refine Keyed.Sorted.ext (ordered_foldl_addCall pieces Assembly.ordered_empty)
    (List.pairwise_map.mpr (pairwise_indices pieces)) fun k => ?_
  have hget := get?_foldl_addCall pieces .empty k
  rw [Assembly.get?_empty] at hget
  refine hget.trans ?_
  rw [Keyed.find?_map_keys]
  cases hown : pieces.filter (·.index = k) with
  | nil =>
    have hnone : k ∉ indices pieces := by
      intro hmem
      obtain ⟨d, hd, hindex⟩ := mem_indices.mp hmem
      exact List.filter_eq_nil_iff.mp hown d hd (decide_eq_true hindex)
    rw [if_neg hnone]
    rfl
  | cons d own =>
    have hd : d ∈ pieces.filter (·.index = k) := by
      rw [hown]
      exact List.mem_cons_self
    obtain ⟨hmem, hindex⟩ := List.mem_filter.mp hd
    rw [if_pos (mem_indices.mpr ⟨d, hmem, of_decide_eq_true hindex⟩), foldl_fill]
    rfl

/-- **The calls of slots that pieces filled** are one for each index. -/
theorem finishAll_eq_callsOf (pieces : List CallDelta) :
    (pieces.foldl Progress.addCall .empty).finishAll.2 = callsOf pieces := by
  rw [Assembly.finishAll, slots_foldl_addCall, List.map_map, callsOf]
  exact List.map_congr_left fun k _ => call_foldl_fill _

/-! ## Pieces in turn -/

namespace Progress

variable {p : Progress}

theorem handleChoices_cons (p : Progress) (d : ChoiceDelta) (ds : List ChoiceDelta) :
    p.handleChoices (d :: ds) =
      (((p.handleChoice d).1.handleChoices ds).1,
        (p.handleChoice d).2 ++ ((p.handleChoice d).1.handleChoices ds).2) :=
  rfl

/-- Other choices are passed over. -/
theorem handleChoices_filter (p : Progress) (ds : List ChoiceDelta) :
    p.handleChoices (ds.filter (·.index = 0)) = p.handleChoices ds := by
  induction ds generalizing p with
  | nil => rfl
  | cons d ds ih =>
    by_cases hd : d.index = 0
    · rw [List.filter_cons_of_pos (by simpa using hd), handleChoices_cons, handleChoices_cons, ih]
    · have hpass : p.handleChoice d = (p, []) := by rw [handleChoice, if_pos hd]
      rw [List.filter_cons_of_neg (by simpa using hd), ih, handleChoices_cons, hpass]
      rfl

theorem contents_concat (ds : List ChoiceDelta) (d : ChoiceDelta) :
    (contents (ds ++ [d])).map ChatEvent.token =
      (contents ds).map .token ++ tokens d.content := by
  rw [contents, List.filterMap_append, List.map_append, contents, List.filterMap_cons,
    List.filterMap_nil]
  cases d.content with
  | none => rfl
  | some text => cases htext : text.isEmpty <;> simp [tokens, Option.filter, htext]

/-- **Pieces are answered by the events of their segments**, the calls of
the last one coming when they are asked for. Some of its pieces were taken
in before. -/
theorem handleChoices_segments (hempty : p.calls = .empty) {ds : List ChoiceDelta}
    (hfirst : ∀ d ∈ ds, d.index = 0) (begun : List ChoiceDelta) :
    (contents begun).map .token ++
        (((p.withCalls (p.assembled begun)).handleChoices ds).2 ++
          ((p.withCalls (p.assembled begun)).handleChoices ds).1.flush.2) =
      (segments begun ds).flatMap segmentEvents := by
  have hcalls (begun : List ChoiceDelta) :
      (p.assembled begun).finishAll.2 = callsOf (begun.flatMap (·.calls)) := by
    rw [assembled, hempty, finishAll_eq_callsOf]
  have hfresh : p.withCalls .empty = p.withCalls (p.assembled []) := by
    rw [assembled, hempty]
    rfl
  -- on the pieces to come; the slots hold what the segment has so far
  induction ds generalizing begun with
  | nil =>
    rw [handleChoices, List.nil_append, segments, List.flatMap_singleton, segmentEvents, flush]
    change _ ++ (p.assembled begun).finishAll.2.map _ = _
    rw [hcalls]
  | cons d ds ih =>
    have hrest := ih fun d' hd => hfirst d' (List.mem_cons_of_mem d hd)
    have hchoice := handleChoice_eq (p := p.withCalls (p.assembled begun))
      (hfirst d List.mem_cons_self)
    rw [assembled_append] at hchoice
    rw [handleChoices_cons, segments]
    by_cases hfinish : d.finishReason.isSome = true
    · -- the segment ends here, and the next one begins with nothing
      have hnext := hrest []
      rw [if_pos hfinish] at hchoice ⊢
      rw [← hfresh] at hnext
      rw [hchoice, List.flatMap_cons, ← hnext, segmentEvents, contents_concat, hcalls]
      simp only [contents, List.filterMap_nil, List.map_nil, List.nil_append, List.append_assoc]
      rfl
    · have hnext := hrest (begun ++ [d])
      rw [if_neg hfinish] at hchoice ⊢
      rw [hchoice, ← hnext, contents_concat]
      simp only [List.append_assoc]
      rfl

/-! ## Chunks in turn -/

/-- The same with another usage. -/
def withUsage (p : Progress) (usage : Usage) : Progress := { p with usage }

/-- Usage is of no account to pieces of choices. -/
theorem handleChoices_withUsage (p : Progress) (usage : Usage) (ds : List ChoiceDelta) :
    (p.withUsage usage).handleChoices ds =
      ((p.handleChoices ds).1.withUsage usage, (p.handleChoices ds).2) := by
  induction ds generalizing p with
  | nil => rfl
  | cons d ds ih =>
    have hchoice : (p.withUsage usage).handleChoice d =
        ((p.handleChoice d).1.withUsage usage, (p.handleChoice d).2) := by
      unfold handleChoice
      split
      · rfl
      · split <;> rfl
    rw [handleChoices_cons, handleChoices_cons, hchoice, ih]

/-- Chunks are answered as the pieces of their choices are, and their usage
is taken in besides. -/
theorem through_told (p : Progress) {chunks : List Chunk} (h : ∀ c ∈ chunks, c.error = none) :
    handler.through p (chunks.map .chunk) =
      ((p.handleChoices (deltas chunks)).1.withUsage
          ((chunks.filterMap (·.usage)).foldl Usage.merge p.usage),
        (p.handleChoices (deltas chunks)).2) := by
  induction chunks generalizing p with
  | nil => rfl
  | cons c chunks ih =>
    have hhandle : handler.handle p (.chunk c) =
        ((p.handleChoices c.choices).1.withUsage ((c.usage.map p.usage.merge).getD p.usage),
          (p.handleChoices c.choices).2) := by
      rw [← handleChoices_withUsage]
      change p.handle c = _
      rw [Progress.handle, h c List.mem_cons_self]
      rfl
    have husage : ((c :: chunks).filterMap (·.usage)).foldl Usage.merge p.usage =
        (chunks.filterMap (·.usage)).foldl Usage.merge
          ((c.usage.map p.usage.merge).getD p.usage) := by
      cases hc : c.usage with
      | none => rw [List.filterMap_cons_none hc]; rfl
      | some usage => rw [List.filterMap_cons_some hc]; rfl
    rw [List.map_cons, Handler.through, hhandle, ih _ fun c' hc => h c' (List.mem_cons_of_mem c hc),
      handleChoices_withUsage, husage, deltas, deltas, List.flatMap_cons, handleChoices_append]
    rfl

/-! ## The end -/

/-- The state after lines. -/
def fed (p : Progress) (lines : List String) : Progress :=
  lines.foldl (fun p line => (p.onLine line).1) p

/-- The state after the end of the body. -/
def ended (p : Progress) : Progress := if p.finished then p else p.finish.1

theorem onLine_eq (p : Progress) (line : String) :
    p.onLine line = if p.finished then (p, []) else handler.take p (linePayload? line) := by
  rw [onLine]
  split
  · rfl
  · rw [linePayload?]
    cases (EventLine.data? line).bind Payload.ofString? with
    | none => rfl
    | some payload => cases payload <;> rfl

theorem fed_of_finished (hp : p.finished = true) (lines : List String) : p.fed lines = p := by
  induction lines with
  | nil => rfl
  | cons line lines ih =>
    have hline : p.onLine line = (p, []) := by rw [onLine_eq, if_pos hp]
    rw [fed, List.foldl_cons, hline]
    exact ih

/-- **No slot is left open** by a stream that ends. -/
theorem calls_ended {tail : List Payload} (htail : tail = [] ∨ tail.head? = some .done)
    (hp : p.finished = false) {lines : List String} {chunks : List Chunk}
    (hlines : lines.filterMap linePayload? = chunks.map .chunk ++ tail)
    (h : ∀ c ∈ chunks, c.error = none) : (p.fed lines).ended.calls = .empty := by
  induction lines generalizing p chunks with
  | nil =>
    change p.ended.calls = .empty
    rw [ended, if_neg (by simp [hp])]
    rfl
  | cons line lines ih =>
    have hline : p.onLine line = handler.take p (linePayload? line) := by
      rw [onLine_eq, if_neg (by simp [hp])]
    change ((p.onLine line).1.fed lines).ended.calls = .empty
    rw [hline]
    cases hpayload : linePayload? line with
    | none =>
      rw [List.filterMap_cons_none hpayload] at hlines
      exact ih hp hlines h
    | some payload =>
      rw [List.filterMap_cons_some hpayload] at hlines
      cases chunks with
      | nil =>
        -- the end mark, and then nothing is heeded
        have hdone : payload = .done := by
          rw [List.map_nil, List.nil_append] at hlines
          rcases htail with rfl | htail
          · cases hlines
          · rw [← hlines] at htail
            exact Option.some.inj htail
        subst hdone
        have hfinished : (handler.take p (some .done)).1.finished = true := rfl
        rw [fed_of_finished hfinished, ended, if_pos hfinished]
        rfl
      | cons c chunks =>
        obtain ⟨rfl, hrest⟩ := List.cons.inj hlines
        exact ih (keeps_chunk (h c List.mem_cons_self) p hp) hrest
          fun c' hc => h c' (List.mem_cons_of_mem c hc)

end Progress

/-- The texts of a segment's events are those of its pieces. -/
theorem filterMap_text?_segmentEvents (segment : List ChoiceDelta) :
    (segmentEvents segment).filterMap ChatEvent.text? = contents segment := by
  rw [segmentEvents, List.filterMap_append, List.filterMap_map, List.filterMap_map]
  have hcalls : (callsOf (segment.flatMap (·.calls))).filterMap
      (ChatEvent.text? ∘ ChatEvent.toolCall) = [] :=
    List.filterMap_eq_nil_iff.mpr fun _ _ => rfl
  rw [hcalls, List.append_nil]
  exact List.filterMap_some

/-- **A stream is told by its segments.** Chunks without an error that end
with the end mark, whatever follows it, or with the body, are answered by
the events of the segments and the usage. So their texts come in order, and
no slot is open after the end. -/
theorem run_eq_segments {lines : List String} {chunks : List Chunk} {tail : List Payload}
    (hlines : lines.filterMap linePayload? = chunks.map .chunk ++ tail)
    (htail : tail = [] ∨ tail.head? = some .done) (herror : ∀ c ∈ chunks, c.error = none) :
    (∃ closed rest, segments [] (firstDeltas chunks) = closed ++ [rest] ∧
      Cut (firstDeltas chunks) closed rest) ∧
    normalizer.run lines =
      (segments [] (firstDeltas chunks)).flatMap segmentEvents ++
        [.done ((chunks.filterMap (·.usage)).foldl Usage.merge .zero)] ∧
    (normalizer.run lines).filterMap ChatEvent.text? = contents (firstDeltas chunks) ∧
    (Progress.start.fed lines).ended.calls = .empty := by
  have hkeeps : ∀ e ∈ chunks.map Payload.chunk, handler.Keeps e := by
    intro e he
    obtain ⟨c, hc, rfl⟩ := List.mem_map.mp he
    exact keeps_chunk (herror c hc)
  have hfinished : (handler.through Progress.start (chunks.map .chunk)).1.finished = false :=
    Handler.finished_through hkeeps rfl
  have hfirst : ∀ d ∈ firstDeltas chunks, d.index = 0 := fun d hd =>
    of_decide_eq_true (List.mem_filter.mp hd).2
  have hpieces := Progress.handleChoices_segments (p := .start) rfl hfirst []
  have hrun : normalizer.run lines =
      (segments [] (firstDeltas chunks)).flatMap segmentEvents ++
        [.done ((chunks.filterMap (·.usage)).foldl Usage.merge .zero)] := by
    rw [run_eq_follow, hlines, Handler.follow_append hkeeps rfl, follow_tail hfinished htail,
      Progress.through_told _ herror, ← Progress.handleChoices_filter, ← hpieces,
      List.append_assoc, List.append_assoc]
    rfl
  have hcut := cut_segments [] (firstDeltas chunks) fun d hd => nomatch hd
  rw [List.nil_append] at hcut
  refine ⟨hcut, hrun, ?_, Progress.calls_ended htail rfl hlines herror⟩
  obtain ⟨closed, rest, hsegments, hwhole⟩ := hcut
  rw [hrun, hsegments, List.filterMap_append, List.filterMap_flatMap, ← hwhole.whole]
  simp only [filterMap_text?_segmentEvents]
  simp [contents, ChatEvent.text?, List.filterMap_flatten, List.flatMap]

/-- Calls in two segments under the same index, one left to the end of the
body, and another choice between them. -/
def segmentedLines : List String :=
  ["\x7b\"choices\":[\x7b\"delta\":\x7b\"content\":\"H\",\"tool_calls\":[" ++
      "\x7b\"index\":1,\"id\":\"t\",\"function\":\x7b\"name\":\"f\"\x7d\x7d," ++
      "\x7b\"id\":\"u\",\"function\":\x7b\"name\":\"g\",\"arguments\":\"[1\"\x7d\x7d]\x7d\x7d]\x7d",
    "\x7b\"choices\":[\x7b\"index\":1,\"delta\":\x7b\"content\":\"no\"\x7d\x7d," ++
      "\x7b\"delta\":\x7b\"tool_calls\":[\x7b\"function\":\x7b\"arguments\":\"]\"\x7d\x7d]\x7d," ++
      "\"finish_reason\":\"tool_calls\"\x7d]\x7d",
    "\x7b\"choices\":[\x7b\"delta\":\x7b\"content\":\"i\",\"tool_calls\":[" ++
      "\x7b\"id\":\"v\",\"function\":\x7b\"name\":\"f\"\x7d\x7d]\x7d\x7d]," ++
      "\"usage\":\x7b\"prompt_tokens\":3,\"completion_tokens\":5\x7d\x7d"].map ("data: " ++ ·)

/-- The chunks of these lines. -/
def segmentedChunks : List Chunk :=
  [⟨[⟨0, some "H", [⟨1, some "t", some "f", none⟩, ⟨0, some "u", some "g", some "[1"⟩], none⟩],
      none, none⟩,
    ⟨[⟨1, some "no", [], none⟩, ⟨0, none, [⟨0, none, none, some "]"⟩], some "tool_calls"⟩],
      none, none⟩,
    ⟨[⟨0, some "i", [⟨0, some "v", some "f", none⟩], none⟩], some ⟨3, 5⟩, none⟩]

/-- The events of that stream. -/
def segmentedEvents : List ChatEvent :=
  [.token "H", .toolCall ⟨"u", "g", .arr [.int 1]⟩, .toolCall ⟨"t", "f", .empty⟩, .token "i",
    .toolCall ⟨"v", "f", .empty⟩, .done ⟨3, 5⟩]

/-- It is told by its two segments. -/
theorem run_eq_segments_segmented : normalizer.run segmentedLines = segmentedEvents := by
  have hlines : segmentedLines.filterMap linePayload? = segmentedChunks.map .chunk ++ [] := by
    simp only [segmentedLines, List.filterMap_map, Function.comp_def, linePayload?_append]
    decide +kernel
  obtain ⟨-, hrun, -⟩ := run_eq_segments hlines (Or.inl rfl) (by decide)
  rw [hrun]
  decide +kernel

end OpenAI

end Turnstile
