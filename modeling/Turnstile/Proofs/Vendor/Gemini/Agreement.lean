import Turnstile.Proofs.Text.Utf8
import Turnstile.Proofs.Vendor.Gemini.Numbering
/-!
# Gemini — streams agree with whole responses

A response without an error payload may be read whole or have its parts
spread, in order, over any number of chunks. Both come to the same parts
and the same usage, and nothing else is heeded (`follow_eq`), so the
events are the same, the ids that stand in among them. An error payload
is the same error either way.
-/

namespace Turnstile

namespace Gemini

open Progress

/-- Chunks that stream a response: its parts in order, and its usage with
any one of them. -/
structure Distributes (r : Response) (chunks : List Response) : Prop where
  plain : ∀ c ∈ chunks, c.error = none
  parts : chunks.flatMap partsOf = partsOf r
  usage : chunks.filterMap (·.usage) = r.usage.toList

/-- A response streamed in chunks has the events of the response. -/
theorem follow_of_distributes {r : Response} {chunks : List Response} (hplain : r.error = none)
    (hchunks : Distributes r chunks) : handler.follow .start chunks = r.events := by
  have hwhole : handler.follow .start [r] = _ :=
    follow_eq fun r' hr => List.mem_singleton.mp hr ▸ hplain
  have hparts : [r].flatMap partsOf = chunks.flatMap partsOf := by
    rw [hchunks.parts, List.flatMap_singleton]
  have husage : [r].filterMap (·.usage) = chunks.filterMap (·.usage) := by
    rw [hchunks.usage]
    cases hu : r.usage <;> simp [hu]
  rw [events_eq_follow, hwhole, hparts, husage]
  exact follow_eq hchunks.plain

/-- A response with an error payload has that error as its one event. -/
theorem events_of_error {r : Response} {status message : String}
    (h : r.error = some (status, message)) :
    r.events = [.error (.vendor (status ++ ": " ++ message))] := by
  rw [events_eq_follow]
  exact follow_of_error rfl h []

/-- A document is the same response in a data line and as a body. -/
theorem ofBytes?_encode {line payload : String} (hline : EventLine.data? line = some payload) :
    Response.ofBytes? (Utf8.encode payload) = lineResponse? line := by
  rw [Response.ofBytes?, Doc.ofBytes?_encode, lineResponse?, hline]
  rfl

/-- **A streamed response agrees with the response read whole.** With no
error payload the events are the same however the parts are spread over
chunks; with one, both are that error. And the ids that stand in for
missing ones in a stream, whatever is in it, are never the same, nor
those of the vendor that begin in another way. -/
theorem run_agrees :
    (∀ body r lines chunks, Response.ofBytes? body = some r → r.error = none →
      lines.filterMap lineResponse? = chunks → Distributes r chunks →
      decodeFull body = .ok (normalizer.run lines)) ∧
    (∀ line payload r status message, EventLine.data? line = some payload →
      Response.ofBytes? (Utf8.encode payload) = some r → r.error = some (status, message) →
      decodeFull (Utf8.encode payload) = .ok [.error (.vendor (status ++ ": " ++ message))] ∧
        normalizer.run [line] = [.error (.vendor (status ++ ": " ++ message))]) ∧
    (∀ lines, Numbered (taken (lines.filterMap lineResponse?))
      ((normalizer.run lines).filterMap ChatEvent.call?)) := by
  refine ⟨?_, ?_, ?_⟩
  · rintro body r lines chunks hbody hplain rfl hchunks
    rw [decodeFull, hbody, run_eq_follow, follow_of_distributes hplain hchunks]
  · intro line payload r status message hline hbody herror
    have hevents := events_of_error herror
    have hcarried : lineResponse? line = some r := (ofBytes?_encode hline).symm.trans hbody
    refine ⟨?_, ?_⟩
    · rw [decodeFull, hbody]
      exact congrArg Except.ok hevents
    · rw [run_eq_follow, List.filterMap_cons_some hcarried, List.filterMap_nil,
        ← events_eq_follow, hevents]
  · intro lines
    rw [calls_run]
    exact numbered_sentFrom _

/-- A response of two first candidates and another one: texts, a thought,
and calls of which the second alone has an id. -/
def sampleBody : Bytes :=
  Utf8.encode ("\x7b\"candidates\":[" ++
    "\x7b\"content\":\x7b\"parts\":[\x7b\"text\":\"Hi\"\x7d," ++
    "\x7b\"text\":\"hm\",\"thought\":true\x7d," ++
    "\x7b\"functionCall\":\x7b\"name\":\"f\"\x7d\x7d]\x7d\x7d," ++
    "\x7b\"index\":1,\"content\":\x7b\"parts\":[\x7b\"text\":\"Ho\"\x7d]\x7d\x7d," ++
    "\x7b\"content\":\x7b\"parts\":[\x7b\"functionCall\":\x7b\"id\":\"t\",\"name\":\"g\"\x7d\x7d," ++
    "\x7b\"functionCall\":\x7b\"name\":\"h\"\x7d\x7d]\x7d\x7d]," ++
    "\"usageMetadata\":\x7b\"promptTokenCount\":3,\"candidatesTokenCount\":5\x7d\x7d")

/-- That response as it is read. -/
def sampleResponse : Response :=
  ⟨[⟨0, some [.text "Hi" false, .text "hm" true, .call ⟨none, "f", .null⟩]⟩,
      ⟨1, some [.text "Ho" false]⟩,
      ⟨0, some [.call ⟨some "t", "g", .null⟩, .call ⟨none, "h", .null⟩]⟩],
    some ⟨3, 5⟩, none⟩

/-- The same streamed, the usage with the second of three chunks. -/
def sampleLines : List String :=
  ["\x7b\"candidates\":[\x7b\"content\":\x7b\"parts\":[\x7b\"text\":\"Hi\"\x7d]\x7d\x7d]\x7d",
    "\x7b\"candidates\":[\x7b\"content\":\x7b\"parts\":[\x7b\"text\":\"hm\",\"thought\":true\x7d," ++
      "\x7b\"functionCall\":\x7b\"name\":\"f\"\x7d\x7d," ++
      "\x7b\"functionCall\":\x7b\"id\":\"t\",\"name\":\"g\"\x7d\x7d]\x7d\x7d]," ++
      "\"usageMetadata\":\x7b\"promptTokenCount\":3,\"candidatesTokenCount\":5\x7d\x7d",
    "\x7b\"candidates\":[\x7b\"content\":\x7b\"parts\":[" ++
      "\x7b\"functionCall\":\x7b\"name\":\"h\"\x7d\x7d]\x7d\x7d]\x7d"].map ("data: " ++ ·)

/-- These chunks as they are read. -/
def sampleChunks : List Response :=
  [⟨[⟨0, some [.text "Hi" false]⟩], none, none⟩,
    ⟨[⟨0, some [.text "hm" true, .call ⟨none, "f", .null⟩, .call ⟨some "t", "g", .null⟩]⟩],
      some ⟨3, 5⟩, none⟩,
    ⟨[⟨0, some [.call ⟨none, "h", .null⟩]⟩], none, none⟩]

/-- An error payload. -/
def sampleError : String :=
  "\x7b\"error\":\x7b\"status\":\"UNAVAILABLE\",\"message\":\"busy\"\x7d\x7d"

/-- The response streamed in three chunks has its events, the ids that
stand in counted on from chunk to chunk, and the error is told alike. -/
theorem run_agrees_sample :
    decodeFull sampleBody = .ok (normalizer.run sampleLines) ∧
      normalizer.run sampleLines =
        [.token "Hi", .toolCall ⟨"gemini_call_0", "f", .empty⟩, .toolCall ⟨"t", "g", .empty⟩,
          .toolCall ⟨"gemini_call_2", "h", .empty⟩, .done ⟨3, 5⟩] ∧
      decodeFull (Utf8.encode sampleError) = .ok [.error (.vendor "UNAVAILABLE: busy")] ∧
      normalizer.run ["data: " ++ sampleError] = [.error (.vendor "UNAVAILABLE: busy")] := by
  have hbody : Response.ofBytes? sampleBody = some sampleResponse := by decide +kernel
  have hlines : sampleLines.filterMap lineResponse? = sampleChunks := by
    simp only [sampleLines, List.filterMap_map, Function.comp_def, lineResponse?_append]
    decide +kernel
  have hchunks : Distributes sampleResponse sampleChunks :=
    ⟨by decide, by decide, by decide⟩
  have herror : Response.ofBytes? (Utf8.encode sampleError) =
      some ⟨[], none, some ("UNAVAILABLE", "busy")⟩ := by decide +kernel
  refine ⟨run_agrees.1 _ _ _ _ hbody rfl hlines hchunks, ?_,
    run_agrees.2.1 _ _ _ _ _ (EventLine.data?_append sampleError) herror rfl⟩
  rw [run_eq_follow, hlines]
  decide +kernel

end Gemini

end Turnstile
