import Turnstile.Proofs.Vendor.OpenAI.Wire
import Mathlib.Data.List.DropRight
/-!
# OpenAI — a call there and back, in fragments

A piece of a call has a line of its own, which is read as the piece it was
written for (`linePayload?_pieceLine`). Whatever pieces a stream comes in,
it is answered by the texts and the calls they give (`run_of_streams`), so
a call whose argument text was cut anywhere is whole again (`survives`).
-/

namespace Turnstile

namespace OpenAI

open Reader

/-! ## Lines of pieces -/

/-- A text that need not be there. -/
def textJson (text : Option String) : Json := (text.map .str).getD .null

@[simp] theorem integral_textJson (text : Option String) : (textJson text).integral = true := by
  cases text <;> rfl

@[simp] theorem depth_textJson (text : Option String) : (textJson text).depth = 0 := by
  cases text <;> rfl

namespace CallDelta

/-- A piece of a call. -/
def toJson (d : CallDelta) : Json :=
  .ofFields [("index", .nat d.index), ("id", textJson d.id),
    ("function", .ofFields [("name", textJson d.name), ("arguments", textJson d.arguments)])]

/-- The delta of a choice that holds it. -/
def deltaJson (d : CallDelta) : Json := .ofFields [("tool_calls", .arr [d.toJson])]

/-- The choice. -/
def choiceJson (d : CallDelta) : Json :=
  .ofFields [("index", .nat 0), ("delta", d.deltaJson)]

/-- The chunk. -/
def chunkJson (d : CallDelta) : Json := .ofFields [("choices", .arr [d.choiceJson])]

/-- The chunk as it is read. -/
def toChunk (d : CallDelta) : Chunk := ⟨[⟨0, none, [d], none⟩], none, none⟩

/-- The line of a piece. -/
def line (d : CallDelta) : String := "data: " ++ d.chunkJson.compact

variable {d : CallDelta}

theorem depth_chunkJson_le : d.chunkJson.depth ≤ 7 := by
  have hfunction : (Json.ofFields
      [("name", textJson d.name), ("arguments", textJson d.arguments)]).depth ≤ 1 :=
    Json.depth_ofFields_le (by simp)
  have hpiece : d.toJson.depth ≤ 2 := Json.depth_ofFields_le (by simp [hfunction])
  have hpieces : (Json.arr [d.toJson]).depth ≤ 3 := Json.depth_singleton_le hpiece
  have hdelta : d.deltaJson.depth ≤ 4 := Json.depth_ofFields_le (by simp [hpieces])
  have hchoice : d.choiceJson.depth ≤ 5 := Json.depth_ofFields_le (by simp [hdelta])
  have hchoices : (Json.arr [d.choiceJson]).depth ≤ 6 := Json.depth_singleton_le hchoice
  exact Json.depth_ofFields_le (by simp [hchoices])

theorem integral_chunkJson (h : d.index < Nat.pow 2 64) : d.chunkJson.integral = true := by
  have hfunction : (Json.ofFields
      [("name", textJson d.name), ("arguments", textJson d.arguments)]).integral = true :=
    Json.integral_ofFields (by simp)
  have hpiece : d.toJson.integral = true :=
    Json.integral_ofFields (by simp [Json.integral_nat h, hfunction])
  have hdelta : d.deltaJson.integral = true :=
    Json.integral_ofFields (by simp [Json.integral_singleton hpiece])
  have hzero : (Json.nat 0).integral = true := Json.integral_nat (by decide)
  have hchoice : d.choiceJson.integral = true := Json.integral_ofFields (by simp [hzero, hdelta])
  exact Json.integral_ofFields (by simp [Json.integral_singleton hchoice])

theorem undoes_function (name arguments : Option String) :
    Undoes functionDelta
      (fun p => .ofFields [("name", textJson p.1), ("arguments", textJson p.2)])
      (name, arguments) := by
  intro source hfits
  obtain ⟨fs, hfs, hfound⟩ := exists_found "struct FunctionDelta" ["name", "arguments"] hfits
  have hname : fs.get? "name" string = .ok name :=
    hfound.get? (by simp) (fun _ => rfl) (fun s _ => undoes_string s) (by simp [textJson])
  have harguments : fs.get? "arguments" string = .ok arguments :=
    hfound.get? (by simp) (fun _ => rfl) (fun s _ => undoes_string s) (by simp [textJson])
  rw [functionDelta, hfs, ok_bind, hname, harguments]
  rfl

theorem undoes_toJson (h : d.index < Nat.pow 2 64) : Undoes callDelta toJson d := by
  intro source hfits
  obtain ⟨fs, hfs, hfound⟩ := exists_found "struct CallDelta" ["index", "id", "function"] hfits
  have hindex : fs.getD "index" Reader.index 0 = .ok d.index :=
    hfound.getD (by simp) (undoes_natBelow "usize" h) 0 (by simp)
  have hid : fs.get? "id" string = .ok d.id :=
    hfound.get? (by simp) (fun _ => rfl) (fun s _ => undoes_string s) (by simp [textJson])
  have hfunction : fs.get? "function" functionDelta = .ok (some (d.name, d.arguments)) :=
    hfound.get? (by simp) (fun _ => rfl)
      (by rintro _ ⟨⟩; exact undoes_function d.name d.arguments) (by simp)
  rw [callDelta, toJson, hfs, ok_bind, hindex, hid, hfunction]
  rfl

theorem undoes_delta (h : d.index < Nat.pow 2 64) :
    Undoes pieces (fun _ => d.deltaJson) (none, [d]) := by
  intro source hfits
  obtain ⟨fs, hfs, hfound⟩ := exists_found "struct Delta" ["content", "tool_calls"] hfits
  have hcontent : fs.get? "content" string = .ok none :=
    hfound.getD_missing (by simp) (option string) none (by simp)
  have hcalls : fs.getD "tool_calls" (list callDelta) [] = .ok [d] :=
    hfound.getD (by simp) (Undoes.list (List.forall_mem_singleton.mpr (undoes_toJson h))) []
      (by simp)
  show pieces source (.ofJson d.deltaJson) = _
  rw [pieces, deltaJson, hfs, ok_bind, hcontent, hcalls]
  rfl

theorem undoes_choice (h : d.index < Nat.pow 2 64) :
    Undoes choiceDelta (fun _ => d.choiceJson) ⟨0, none, [d], none⟩ := by
  intro source hfits
  obtain ⟨fs, hfs, hfound⟩ :=
    exists_found "struct ChoiceDelta" ["index", "delta", "finish_reason"] hfits
  have hindex : fs.getD "index" Reader.index 0 = .ok 0 :=
    hfound.getD (by simp) (undoes_natBelow "usize" (by decide)) 0 (by simp)
  have hdelta : fs.getD "delta" pieces (none, []) = .ok (none, [d]) :=
    hfound.getD (by simp) (undoes_delta h) (none, []) (by simp)
  have hfinish : fs.get? "finish_reason" string = .ok none :=
    hfound.getD_missing (by simp) (option string) none (by simp)
  show choiceDelta source (.ofJson d.choiceJson) = _
  rw [choiceDelta, choiceJson, hfs, ok_bind, hindex, hdelta, hfinish]
  rfl

theorem undoes_chunk (h : d.index < Nat.pow 2 64) :
    Undoes chunk (fun _ => d.chunkJson) d.toChunk := by
  intro source hfits
  obtain ⟨fs, hfs, hfound⟩ := exists_found "struct Chunk" ["choices", "usage", "error"] hfits
  have hlist : Undoes (list choiceDelta) (fun cs => .arr (cs.map fun _ => d.choiceJson))
      [⟨0, none, [d], none⟩] :=
    Undoes.list (List.forall_mem_singleton.mpr (undoes_choice h))
  have hchoices : fs.getD "choices" (list choiceDelta) [] = .ok [⟨0, none, [d], none⟩] :=
    hfound.getD (by simp) hlist [] (by simp)
  have husage : fs.get? "usage" usage = .ok none :=
    hfound.getD_missing (by simp) (option usage) none (by simp)
  have herror : fs.get? "error" apiError = .ok none :=
    hfound.getD_missing (by simp) (option apiError) none (by simp)
  show chunk source (.ofJson d.chunkJson) = _
  rw [chunk, chunkJson, hfs, ok_bind, hchoices, husage, herror]
  rfl

end CallDelta

/-- The text of an object is not the end mark. -/
theorem trim_compact_ne (fields : List (String × Json)) :
    Text.trim (Json.obj fields).compact ≠ "[DONE]" := by
  obtain ⟨rest, hrest⟩ : ∃ rest, Json.chars (.obj fields) = '\x7b' :: rest := by
    rcases fields with _ | ⟨⟨k, v⟩, fields⟩ <;> exact ⟨_, rfl⟩
  intro htrim
  -- nothing is trimmed in front of the mark an object opens with
  have hlist : Text.dropEndWhile Text.isBlank ('\x7b' :: rest) = "[DONE]".toList := by
    rw [← htrim, Text.trim, Text.trimWhere, Json.compact, String.toList_ofList,
      String.toList_ofList, hrest]
    rfl
  have hprefix : "[DONE]".toList <+: '\x7b' :: rest := by
    rw [← hlist]
    exact List.rdropWhile_prefix Text.isBlank (l := '\x7b' :: rest)
  exact absurd (List.cons_prefix_cons.mp hprefix).1 (by decide)

/-- **The line of a piece is read as the piece.** -/
theorem linePayload?_line {d : CallDelta} (h : d.index < Nat.pow 2 64) :
    linePayload? d.line = some (.chunk d.toChunk) := by
  have hread : chunk .text (.ofJson d.chunkJson) = .ok d.toChunk :=
    CallDelta.undoes_chunk h .text (Doc.fits_some (Nat.le_trans d.depth_chunkJson_le (by decide)))
  have hmark : Text.trim d.chunkJson.compact ≠ "[DONE]" := trim_compact_ne _
  rw [CallDelta.line, linePayload?_append, Payload.ofString?, if_neg hmark,
    Doc.ofString?_compact (CallDelta.integral_chunkJson h), Option.bind_some, hread]
  rfl

/-! ## Streams -/

/-- **The events of a streamed choice**: the pieces of its text, its calls
whole and in order, and the usage. -/
theorem run_of_streams {a : Answer} {usage : Option Usage} {lines : List String}
    {chunks : List Chunk} {tail : List Payload}
    (hlines : lines.filterMap linePayload? = chunks.map .chunk ++ (usageChunk usage ++ tail))
    (htail : tail = [] ∨ tail.head? = some .done) (hstreams : Streams a chunks) :
    normalizer.run lines =
      ((deltas chunks).map fun d => d.content.getD "").flatMap ChatEvent.ofText ++
        (a.calls.map (fun w => .toolCall w.toToolCall) ++ [.done (usage.getD .zero)]) := by
  have hkeeps : ∀ e ∈ chunks.map Payload.chunk, handler.Keeps e := by
    intro e he
    obtain ⟨c, hc, rfl⟩ := List.mem_map.mp he
    exact keeps_chunk (hstreams.plain c hc).1
  have hsame := Progress.start.handleChoices_same (deltas chunks)
  have hcalls : (Progress.start.assembled (deltas chunks)).finishAll.2 =
      a.calls.map Call.toToolCall :=
    finishAll_foldl_addCall hstreams.calls
  rw [run_eq_follow, hlines, Handler.follow_append hkeeps rfl,
    through_chunks _ hstreams.plain, follow_usageChunk hsame.1 hsame.2 usage htail,
    Progress.handleChoices_finish hstreams.first hstreams.finish, hcalls, List.map_map,
    List.flatMap_map]
  simp only [Progress.tokens_eq]
  rfl

/-- The pieces of a call whose argument text comes in fragments: first its
id and its name, then the fragments. -/
def fragmented (w : Call) (fragments : List String) : List CallDelta :=
  ⟨0, some w.id, some w.name, none⟩ :: fragments.map fun f => ⟨0, none, none, some f⟩

theorem assembles_fragmented {w : Call} {fragments : List String}
    (h : String.join fragments = w.arguments) : Assembles [w] (fragmented w fragments) := by
  have hindex : ∀ d ∈ fragmented w fragments, d.index = 0 := by
    simp [fragmented]
  refine ⟨fun d hd => ?_, fun k c hc => ?_⟩
  · rw [hindex d hd]
    exact Nat.one_pos
  · match k with
    | k + 1 => cases hc
    | 0 =>
      cases hc
      -- there is one call, so every piece is one of it
      have hall : (fragmented w fragments).filter (·.index = 0) = fragmented w fragments :=
        List.filter_eq_self.mpr fun d hd => decide_eq_true (hindex d hd)
      rw [hall]
      refine ⟨List.cons_ne_nil _ _, ⟨?_, ?_⟩, ⟨?_, ?_⟩, ?_⟩
      · exact Or.inr List.mem_cons_self
      · simp [fragmented]
      · exact Or.inr List.mem_cons_self
      · simp [fragmented]
      · have htexts : fragments.map ((fun d : CallDelta => d.arguments.getD "") ∘
            fun f => ⟨0, none, none, some f⟩) = fragments :=
          List.map_id' fragments
        rw [fragmented, List.map_cons, List.map_map, String.join_cons, htexts, h]
        exact String.empty_append

theorem filterMap_line {pieces : List CallDelta} (h : ∀ d ∈ pieces, d.index < Nat.pow 2 64) :
    (pieces.map CallDelta.line).filterMap linePayload? =
      (pieces.map CallDelta.toChunk).map .chunk := by
  induction pieces with
  | nil => rfl
  | cons d pieces ih =>
    obtain ⟨hd, hrest⟩ := List.forall_mem_cons.mp h
    rw [List.map_cons, List.filterMap_cons_some (linePayload?_line hd), ih hrest]
    rfl

theorem deltas_toChunk (pieces : List CallDelta) :
    deltas (pieces.map CallDelta.toChunk) = pieces.map fun d => ⟨0, none, [d], none⟩ := by
  rw [deltas, List.flatMap_map]
  exact List.map_eq_flatMap.symm

/-- Nothing is said but the pieces of calls. -/
theorem contents_toChunk (pieces : List CallDelta) :
    ((deltas (pieces.map CallDelta.toChunk)).map fun d => d.content.getD "") =
      List.replicate pieces.length "" := by
  rw [deltas_toChunk, List.map_map]
  exact List.map_const'

theorem join_replicate_empty (n : Nat) : String.join (List.replicate n "") = "" := by
  induction n with
  | zero => rfl
  | succ n ih => rw [List.replicate_succ, String.join_cons, ih, String.append_empty]

theorem streams_toChunk {calls : List Call} {pieces : List CallDelta}
    (h : Assembles calls pieces) : Streams ⟨none, calls⟩ (pieces.map CallDelta.toChunk) := by
  have hcalls : (deltas (pieces.map CallDelta.toChunk)).flatMap (·.calls) = pieces := by
    rw [deltas_toChunk, List.flatMap_map]
    exact List.flatMap_singleton' pieces
  have hplain : ∀ d ∈ deltas (pieces.map CallDelta.toChunk),
      d.index = 0 ∧ d.finishReason = none := by
    rw [deltas_toChunk]
    exact List.forall_mem_map.mpr fun d _ => ⟨rfl, rfl⟩
  refine ⟨?_, fun d hd => (hplain d hd).1, fun d hd => ?_, ?_, ?_⟩
  · exact List.forall_mem_map.mpr fun d _ => ⟨rfl, rfl⟩
  · exact (hplain d (List.dropLast_subset _ hd)).2
  · rw [contents_toChunk]
    exact join_replicate_empty _
  · rw [hcalls]
    exact h

/-- **However the argument text is cut**, the lines of its pieces give the
call. -/
theorem run_fragmented {w : Call} {fragments : List String}
    (h : String.join fragments = w.arguments) :
    normalizer.run ((fragmented w fragments).map CallDelta.line) =
      [.toolCall w.toToolCall, .done .zero] := by
  have hindex : ∀ d ∈ fragmented w fragments, d.index < Nat.pow 2 64 := by
    simp [fragmented]
  have hlines : ((fragmented w fragments).map CallDelta.line).filterMap linePayload? =
      ((fragmented w fragments).map CallDelta.toChunk).map .chunk ++ (usageChunk none ++ []) := by
    rw [filterMap_line hindex]
    exact (List.append_nil _).symm
  have hsilent :
      (List.replicate (fragmented w fragments).length "").flatMap ChatEvent.ofText = [] :=
    List.flatMap_eq_nil_iff.mpr fun text htext => by rw [List.eq_of_mem_replicate htext]; rfl
  rw [run_of_streams hlines (Or.inl rfl) (streams_toChunk (assembles_fragmented h)),
    contents_toChunk, hsilent]
  rfl

/-! ## There and back -/

/-- The argument text in an entry. -/
def argumentsOf? (entry : Json) : Option String :=
  (entry.get? "function").bind (Json.textAt? "arguments")

/-- A call is whole again where its argument text is streamed. -/
structure Reassembled (c : ToolCall) (arguments : String) : Prop where
  /-- In a stream whose pieces give the calls of a choice, in whatever order
  they come and however they are cut, it is told in its place. -/
  streamed : ∀ (content : Option String) (usage : Option Usage) (before after : List Call)
    (lines : List String) (chunks : List Chunk) (tail : List Payload),
    lines.filterMap linePayload? = chunks.map .chunk ++ (usageChunk usage ++ tail) →
    (tail = [] ∨ tail.head? = some .done) →
    Streams ⟨content, before ++ ⟨c.id, c.name, arguments⟩ :: after⟩ chunks →
    ∃ texts, String.join texts = content.getD "" ∧
      normalizer.run lines = texts.flatMap ChatEvent.ofText ++
        ((before.map Call.toToolCall ++ c :: after.map Call.toToolCall).map .toolCall ++
          [.done (usage.getD .zero)])
  /-- So it is in the lines of its own pieces, wherever the text is cut. -/
  cut : ∀ fragments, String.join fragments = arguments →
    normalizer.run ((fragmented ⟨c.id, c.name, arguments⟩ fragments).map CallDelta.line) =
      [.toolCall c, .done .zero]

/-- What becomes of a call whose entry is sent back. -/
structure SentBack (c : ToolCall) (entry : Json) : Prop where
  /-- In a response that holds the entry among those of other calls, it is
  told in its place. -/
  whole : ∀ (r : Reply) (before after : List Call), r.Sound →
    (r.toJson (before.map Call.toJson ++ entry :: after.map Call.toJson)).depth <
      Doc.nestingLimit →
    decodeFull (Utf8.encode
      (r.toJson (before.map Call.toJson ++ entry :: after.map Call.toJson)).compact) =
      .ok (Progress.tokens r.content ++
        (before.map Call.toToolCall ++ c :: after.map Call.toToolCall).map .toolCall ++
        [.done (r.usage.getD .zero)])
  /-- In any response that is decoded, whatever it holds besides, it is told
  in its place. -/
  anywhere : ∀ (body : Bytes) (doc : Doc) (items : List Doc) (i : Nat) (events : List ChatEvent),
    Doc.ofBytes? body = some doc → entriesOf? doc = some items →
    items[i]? = some (.ofJson entry) → decodeFull body = .ok events →
    ∃ (content : Option String) (calls : List ToolCall) (usage : Usage),
      events = Progress.tokens content ++ calls.map .toolCall ++ [.done usage] ∧
        calls.length = items.length ∧ calls[i]? = some c
  /-- In a stream of its argument text it is told as well. -/
  streamed : ∃ arguments, argumentsOf? entry = some arguments ∧ Reassembled c arguments

/-- A call that was sent is the call that is told. -/
theorem toToolCall_ofToolCall {c : ToolCall} (hnull : c.input.isNull = false)
    (hint : c.input.integral = true) (hord : c.input.ordered = true)
    (hdepth : c.input.depth < Doc.nestingLimit) : (Call.ofToolCall c).toToolCall = c := by
  rw [Call.toToolCall, ToolCall.make_parseArguments, Call.ofToolCall,
    inputOf_compact hnull hint hord hdepth]

/-- It is told in its place among the others. -/
theorem told_calls {c : ToolCall} (htold : (Call.ofToolCall c).toToolCall = c)
    (before after : List Call) :
    (before ++ Call.ofToolCall c :: after).map (fun w => ChatEvent.toolCall w.toToolCall) =
      (before.map Call.toToolCall ++ c :: after.map Call.toToolCall).map .toolCall := by
  rw [List.map_append, List.map_append, List.map_cons, List.map_cons, htold, List.map_map,
    List.map_map]
  rfl

theorem sentBack {c : ToolCall} (htold : (Call.ofToolCall c).toToolCall = c) :
    SentBack c (Call.ofToolCall c).toJson where
  whole r before after hsound hdepth := by
    have hentries : before.map Call.toJson ++ (Call.ofToolCall c).toJson :: after.map Call.toJson =
        (before ++ Call.ofToolCall c :: after).map Call.toJson := by
      rw [List.map_append, List.map_cons]
    rw [hentries] at hdepth ⊢
    rw [Reply.decodeFull_compact _ hsound hdepth, told_calls htold]
  anywhere body doc items i events hdoc hitems hi hevents := by
    obtain ⟨content, calls, usage, rfl, hlength, hcall⟩ :=
      exists_of_entriesOf? hdoc hitems hi hevents
    refine ⟨content, calls.map Call.toToolCall, usage, ?_, ?_, ?_⟩
    · rw [List.map_map]
      rfl
    · rw [List.length_map, hlength]
    · rw [List.getElem?_map, hcall, Option.map_some, htold]
  streamed := by
    refine ⟨c.input.compact, ?_, ?_, ?_⟩
    · simp [argumentsOf?, Call.toJson, Call.ofToolCall, Json.textAt?, Json.asString?]
    · intro content usage before after lines chunks tail hlines htail hstreams
      refine ⟨_, hstreams.content, ?_⟩
      rw [run_of_streams hlines htail hstreams]
      exact congrArg (fun calls => _ ++ (calls ++ _)) (told_calls htold before after)
    · intro fragments hjoin
      have hrun := run_fragmented (w := Call.ofToolCall c) hjoin
      rw [htold] at hrun
      exact hrun

/-- What is sent for a message with calls. -/
theorem ofMessage_withToolCalls (text : String) {calls : List ToolCall} (h : calls ≠ []) :
    Turn.ofMessage (.withToolCalls text calls) =
      [.plain .assistant (if text.isEmpty then none else some text) calls] := by
  simp [Turn.ofMessage, ChatMessage.withToolCalls, h]

/-- **A call survives the wire.** Its entry stands in the message that asks
for it, and when that entry is sent back, or its argument text is streamed,
what is told is the call. -/
theorem survives (c : ToolCall) (hnull : c.input.isNull = false)
    (hint : c.input.integral = true) (hord : c.input.ordered = true)
    (hdepth : c.input.depth < Doc.nestingLimit) (text : String) (before after : List ToolCall) :
    ∃ turn entries entry,
      Turn.ofMessage (.withToolCalls text (before ++ c :: after)) = [turn] ∧
      turn.toJson.get? "tool_calls" = some (.arr entries) ∧
      entries[before.length]? = some entry ∧ SentBack c entry := by
  have htold := toToolCall_ofToolCall hnull hint hord hdepth
  have hne : before ++ c :: after ≠ [] := by simp
  refine ⟨_, (before ++ c :: after).map Turn.callToJson, (Call.ofToolCall c).toJson,
    ofMessage_withToolCalls text hne, ?_, ?_, sentBack htold⟩
  · simp [Turn.toJson]
  · rw [List.getElem?_map, List.getElem?_append_right (Nat.le_refl _), Nat.sub_self]
    rfl

/-- A call whose input is nested and holds what is escaped. -/
def sampleCall : ToolCall :=
  ⟨"t", "f", .obj [("a", .arr [.int (-1), .obj []]), ("q", .str "\"\\\n")]⟩

/-- A response with a text, a usage and more besides. -/
def sampleReply : Reply :=
  ⟨some "Hi", some ⟨3, 5⟩, [("role", .str "assistant")], [("index", .int 0)],
    [("created", .int 1)]⟩

/-- Sent, and sent back whole or with its argument text cut in two, it is
the same call. -/
theorem survives_sample :
    ∃ entry arguments, argumentsOf? entry = some arguments ∧
      decodeFull (Utf8.encode (sampleReply.toJson [entry]).compact) =
        .ok [.token "Hi", .toolCall sampleCall, .done ⟨3, 5⟩] ∧
      normalizer.run ((fragmented ⟨"t", "f", arguments⟩
          [String.ofList (arguments.toList.take 7), String.ofList (arguments.toList.drop 7)]).map
            CallDelta.line) = [.toolCall sampleCall, .done .zero] := by
  obtain ⟨turn, entries, entry, hturn, hentries, hentry, hback⟩ :=
    survives sampleCall (by decide) (by decide) (by decide) (by decide) "Hi" [] []
  cases hturn
  cases hentries
  cases hentry
  have hsound : sampleReply.Sound := ⟨by decide, by decide⟩
  have hwhole := hback.whole sampleReply [] [] hsound (by decide +kernel)
  obtain ⟨arguments, harguments, hstream⟩ := hback.streamed
  refine ⟨_, arguments, harguments, hwhole, hstream.cut _ ?_⟩
  rw [String.join_cons, String.join_cons, String.join_nil, String.append_empty,
    ← String.ofList_append, List.take_append_drop, String.ofList_toList]

end OpenAI

end Turnstile
