import Turnstile.Chat.Request
import Turnstile.Proofs.Json.Record
import Turnstile.Proofs.Json.Text
/-!
# Requests — written and read back

Each of the records a request is made of is read as it was written
(`ChatRequest.undoes_reader`): what is left out is read as what it was left
out for. Whatever a request was read from, it is sound, and there is room
for it where that was read (`ChatRequest.fits_of_reader`). So a request
that was read and is written has one text, which is read as the same
request (`ChatRequest.round_trips`).
-/

namespace Turnstile

open Reader

/-! ## Calls, results, definitions -/

namespace ToolCall

variable {c : ToolCall}

theorem integral_toJson (h : c.input.integral = true) : c.toJson.integral = true :=
  Json.integral_ofFields (by simp [h])

theorem undoes_reader (h : c.input.ordered = true) : Undoes reader toJson c := by
  intro source hfits
  obtain ⟨fs, hfs, hfound⟩ := exists_found "struct ToolCall" ["id", "name", "input"] hfits
  have hid : fs.require "id" string = .ok c.id :=
    hfound.require (by simp) (undoes_string c.id) (by simp)
  have hname : fs.require "name" string = .ok c.name :=
    hfound.require (by simp) (undoes_string c.name) (by simp)
  have hinput : fs.require "input" json = .ok c.input :=
    hfound.require (by simp) (undoes_json h) (by simp)
  rw [reader, toJson, hfs, ok_bind, hid, hname, hinput]
  rfl

theorem fits_of_reader {source : Source} {doc : Doc} (h : reader source doc = .ok c) :
    c.input.ordered = true ∧ Doc.Fits source.limit c.toJson.depth := by
  obtain ⟨fs, hfs, h⟩ := Except.exists_of_bind h
  obtain ⟨id, -, h⟩ := Except.exists_of_bind h
  obtain ⟨name, -, h⟩ := Except.exists_of_bind h
  obtain ⟨input, hinput, h⟩ := Except.exists_of_bind h
  cases h
  obtain ⟨inner, hinner⟩ := exists_of_require hinput
  obtain ⟨hordered, hfits⟩ := fits_of_json hinner
  exact ⟨hordered, Source.fits_ofFields (inside_of_record hfs) (by simp [hfits])⟩

end ToolCall

namespace ToolResult

variable {t : ToolResult}

theorem integral_toJson : t.toJson.integral = true :=
  Json.integral_ofFields (by simp)

theorem undoes_reader : Undoes reader toJson t := by
  intro source hfits
  obtain ⟨fs, hfs, hfound⟩ :=
    exists_found "struct ToolResult" ["tool_call_id", "content", "is_error"] hfits
  have hid : fs.require "tool_call_id" string = .ok t.callId :=
    hfound.require (by simp) (undoes_string t.callId) (by simp)
  have hcontent : fs.require "content" string = .ok t.content :=
    hfound.require (by simp) (undoes_string t.content) (by simp)
  have herror : fs.getD "is_error" bool false = .ok t.isError :=
    hfound.getD (by simp) (undoes_bool t.isError) false (by simp)
  rw [reader, toJson, hfs, ok_bind, hid, hcontent, herror]
  rfl

theorem fits_of_reader {source : Source} {doc : Doc} (h : reader source doc = .ok t) :
    Doc.Fits source.limit t.toJson.depth := by
  obtain ⟨fs, hfs, -⟩ := Except.exists_of_bind h
  exact Source.fits_ofFields (inside_of_record hfs) (by simp)

end ToolResult

namespace ToolDefinition

variable {d : ToolDefinition}

theorem integral_toJson (h : d.inputSchema.integral = true) : d.toJson.integral = true :=
  Json.integral_ofFields (by simp [h])

theorem undoes_reader (h : d.inputSchema.ordered = true) : Undoes reader toJson d := by
  intro source hfits
  obtain ⟨fs, hfs, hfound⟩ :=
    exists_found "struct ToolDefinition" ["name", "description", "input_schema"] hfits
  have hname : fs.require "name" string = .ok d.name :=
    hfound.require (by simp) (undoes_string d.name) (by simp)
  have hdescription : fs.require "description" string = .ok d.description :=
    hfound.require (by simp) (undoes_string d.description) (by simp)
  have hschema : fs.getD "input_schema" json defaultInputSchema = .ok d.inputSchema :=
    hfound.getD (by simp) (undoes_json h) defaultInputSchema (by simp)
  rw [reader, toJson, hfs, ok_bind, hname, hdescription, hschema]
  rfl

/-- A schema that was left out takes one level. -/
theorem fits_of_reader {source : Source} {doc : Doc} (h : reader source doc = .ok d)
    (hroom : Doc.Fits source.limit 2) :
    d.inputSchema.ordered = true ∧ Doc.Fits source.limit d.toJson.depth := by
  obtain ⟨fs, hfs, h⟩ := Except.exists_of_bind h
  obtain ⟨name, -, h⟩ := Except.exists_of_bind h
  obtain ⟨description, -, h⟩ := Except.exists_of_bind h
  obtain ⟨schema, hschema, h⟩ := Except.exists_of_bind h
  cases h
  have hinside := inside_of_record hfs
  have hread : schema.ordered = true ∧ Doc.Fits fs.source.limit schema.depth := by
    rcases exists_of_getD hschema with rfl | ⟨inner, hinner⟩
    · exact ⟨by decide, Source.fits_inside hinside hroom⟩
    · exact fits_of_json hinner
  exact ⟨hread.1, Source.fits_ofFields hinside (by simp [hread.2])⟩

end ToolDefinition

/-! ## Messages -/

theorem Role.undoes_reader (role : Role) : Undoes reader (fun role => .str role.name) role := by
  intro source _
  cases role <;> rfl

namespace ChatMessage

variable {m : ChatMessage}

theorem integral_toJson (h : ∀ c ∈ m.toolCalls, c.input.integral = true) :
    m.toJson.integral = true := by
  have hcalls : (Json.arr (m.toolCalls.map ToolCall.toJson)).integral = true :=
    Json.integral_arr_map fun c hc => ToolCall.integral_toJson (h c hc)
  have hresults : (Json.arr (m.toolResults.map ToolResult.toJson)).integral = true :=
    Json.integral_arr_map fun t _ => ToolResult.integral_toJson
  refine Json.integral_ofFields ?_
  split <;> split <;> simp [hcalls, hresults]

theorem undoes_reader (h : ∀ c ∈ m.toolCalls, c.input.ordered = true) :
    Undoes reader toJson m := by
  intro source hfits
  obtain ⟨fs, hfs, hfound⟩ := exists_found "struct ChatMessage"
    ["role", "content", "tool_calls", "tool_results"] hfits
  have hrole : fs.require "role" Role.reader = .ok m.role :=
    hfound.require (by simp) (Role.undoes_reader m.role) (by simp)
  have hcontent : fs.getD "content" string "" = .ok m.content :=
    hfound.getD (by simp) (undoes_string m.content) "" (by simp)
  have hcalls : fs.getD "tool_calls" (list ToolCall.reader) [] = .ok m.toolCalls :=
    hfound.getD_list (by simp) (fun c hc => ToolCall.undoes_reader (h c hc)) (by simp)
  have hresults : fs.getD "tool_results" (list ToolResult.reader) [] = .ok m.toolResults :=
    hfound.getD_list (by simp) (fun t _ => ToolResult.undoes_reader) (by simp)
  rw [reader, toJson, hfs, ok_bind, hrole, hcontent, hcalls, hresults]
  rfl

theorem fits_of_reader {source : Source} {doc : Doc} (h : reader source doc = .ok m) :
    (∀ c ∈ m.toolCalls, c.input.ordered = true) ∧ Doc.Fits source.limit m.toJson.depth := by
  obtain ⟨fs, hfs, h⟩ := Except.exists_of_bind h
  obtain ⟨role, -, h⟩ := Except.exists_of_bind h
  obtain ⟨content, -, h⟩ := Except.exists_of_bind h
  obtain ⟨calls, hcalls, h⟩ := Except.exists_of_bind h
  obtain ⟨results, hresults, h⟩ := Except.exists_of_bind h
  cases h
  obtain ⟨hordered, hcalls⟩ := fits_of_getD_list (P := fun c => c.input.ordered = true)
    (fun _ _ _ _ hread => ToolCall.fits_of_reader hread) hcalls
  obtain ⟨-, hresults⟩ := fits_of_getD_list (P := fun _ => True)
    (fun _ _ _ _ hread => ⟨trivial, ToolResult.fits_of_reader hread⟩) hresults
  refine ⟨hordered, Source.fits_ofFields (inside_of_record hfs) ?_⟩
  simp only [List.isEmpty_iff]
  split <;> split <;> simp [*]

end ChatMessage

/-! ## Requests -/

namespace ChatRequest

variable {r : ChatRequest}

/-- The values of free form: inputs of calls and schemas of tools. -/
def freeForm (r : ChatRequest) : List Json :=
  r.messages.flatMap (·.toolCalls.map (·.input)) ++ r.tools.map (·.inputSchema)

/-- What every request keeps to: a count of 32 bits, and objects in order
of key. -/
structure Sound (r : ChatRequest) : Prop where
  maxTokens : r.maxTokens < Nat.pow 2 32
  ordered : ∀ j ∈ r.freeForm, j.ordered = true

/-- A fact of all values of free form is one of every message and tool. -/
theorem forall_mem_freeForm {P : Json → Prop} :
    (∀ j ∈ r.freeForm, P j) ↔
      (∀ m ∈ r.messages, ∀ c ∈ m.toolCalls, P c.input) ∧ ∀ d ∈ r.tools, P d.inputSchema := by
  rw [freeForm, List.forall_mem_append, List.forall_mem_map, List.forall_mem_flatMap]
  simp only [List.forall_mem_map]

/-- What is written where there is no temperature. -/
theorem toJson_eq (htemperature : r.temperature = none) :
    r.toJson = .ofFields ([("model", .str r.model), ("max_tokens", .nat r.maxTokens),
        ("messages", .arr (r.messages.map ChatMessage.toJson))] ++
      (if r.tools = [] then [] else [("tools", .arr (r.tools.map ToolDefinition.toJson))])) := by
  rw [toJson, htemperature]
  simp only [List.isEmpty_iff]
  rfl

theorem integral_toJson (htemperature : r.temperature = none) (hsound : r.Sound)
    (h : ∀ j ∈ r.freeForm, j.integral = true) : r.toJson.integral = true := by
  obtain ⟨hinputs, hschemas⟩ := forall_mem_freeForm.mp h
  have hcount : (Json.nat r.maxTokens).integral = true :=
    Json.integral_nat (Nat.lt_trans hsound.maxTokens (by decide))
  have hmessages : (Json.arr (r.messages.map ChatMessage.toJson)).integral = true :=
    Json.integral_arr_map fun m hm => ChatMessage.integral_toJson (hinputs m hm)
  have htools : (Json.arr (r.tools.map ToolDefinition.toJson)).integral = true :=
    Json.integral_arr_map fun d hd => ToolDefinition.integral_toJson (hschemas d hd)
  rw [toJson_eq htemperature]
  refine Json.integral_ofFields ?_
  split <;> simp [hcount, hmessages, htools]

/-- **A sound request without a temperature is read as it was written.** -/
theorem undoes_reader (htemperature : r.temperature = none) (hsound : r.Sound) :
    Undoes reader toJson r := by
  intro source hfits
  obtain ⟨hinputs, hschemas⟩ := forall_mem_freeForm.mp hsound.ordered
  rw [toJson_eq htemperature] at hfits ⊢
  obtain ⟨fs, hfs, hfound⟩ := exists_found "struct ChatRequest"
    ["model", "max_tokens", "temperature", "messages", "tools"] hfits
  have hmodel : fs.getD "model" string "" = .ok r.model :=
    hfound.getD (by simp) (undoes_string r.model) "" (by simp)
  have hcount : fs.getD "max_tokens" nat32 0 = .ok r.maxTokens :=
    hfound.getD (by simp) (undoes_natBelow "u32" hsound.maxTokens) 0 (by simp)
  have hsingle : fs.get? "temperature" single = .ok none :=
    hfound.getD_missing (by simp) (option single) none (by simp)
  have hmessages : fs.require "messages" (list ChatMessage.reader) = .ok r.messages :=
    hfound.require (by simp)
      (Undoes.list fun m hm => ChatMessage.undoes_reader (hinputs m hm)) (by simp)
  have htools : fs.getD "tools" (list ToolDefinition.reader) [] = .ok r.tools :=
    hfound.getD_list (by simp) (fun d hd => ToolDefinition.undoes_reader (hschemas d hd)) (by simp)
  rw [reader, hfs, ok_bind, hmodel, hcount, hsingle, hmessages, htools, ← htemperature]
  rfl

/-- **Whatever a request was read from**, it is sound, and there is room
for it where that was read. -/
theorem fits_of_reader {source : Source} {doc : Doc} (h : reader source doc = .ok r)
    (htemperature : r.temperature = none) (hroom : Doc.Fits source.limit 4) :
    r.Sound ∧ Doc.Fits source.limit r.toJson.depth := by
  obtain ⟨fs, hfs, h⟩ := Except.exists_of_bind h
  obtain ⟨model, -, h⟩ := Except.exists_of_bind h
  obtain ⟨maxTokens, hcount, h⟩ := Except.exists_of_bind h
  obtain ⟨temperature, -, h⟩ := Except.exists_of_bind h
  obtain ⟨messages, hmessages, h⟩ := Except.exists_of_bind h
  obtain ⟨tools, htools, h⟩ := Except.exists_of_bind h
  cases h
  have hinside := inside_of_record hfs
  -- a schema that was left out stands in a definition, in a list, in here
  have hroom := Source.fits_inside hinside hroom
  have hcount : maxTokens < Nat.pow 2 32 := by
    rcases exists_of_getD hcount with rfl | ⟨doc, hdoc⟩
    · decide
    · exact lt_of_natBelow hdoc
  obtain ⟨doc, hdoc⟩ := exists_of_require hmessages
  obtain ⟨hinputs, hmessages⟩ := fits_of_list
    (P := fun m : ChatMessage => ∀ c ∈ m.toolCalls, c.input.ordered = true)
    (fun _ _ _ _ hread => ChatMessage.fits_of_reader hread) hdoc
  obtain ⟨hschemas, htools⟩ := fits_of_getD_list
    (P := fun d : ToolDefinition => d.inputSchema.ordered = true)
    (fun within hwithin _ _ hread =>
      ToolDefinition.fits_of_reader hread (Source.fits_inside hwithin hroom)) htools
  refine ⟨⟨hcount, forall_mem_freeForm.mpr ⟨hinputs, hschemas⟩⟩, ?_⟩
  rw [toJson_eq htemperature]
  refine Source.fits_ofFields hinside ?_
  split <;> simp [*]

/-! ## Texts of requests -/

/-- The text a text settles to: that of the request it holds. -/
def settled? (s : String) : Except Mismatch String := (ofString? s).map (·.toJson.compact)

/-- **What is written is read, and what was read is settled.** -/
structure RoundTrips (r : ChatRequest) : Prop where
  /-- A request that nests no deeper than the reader goes is the one its
  text holds. -/
  text : r.Sound → r.toJson.depth < Doc.nestingLimit → ofString? r.toJson.compact = .ok r
  /-- It is the one its value holds, however deep. -/
  value : r.Sound → ofJson? r.toJson = .ok r
  /-- Whatever text it was read from, its own text is read as the same
  request, and settles to itself. -/
  settled : ∀ s, ofString? s = .ok r → settled? s = .ok r.toJson.compact ∧
    ofString? r.toJson.compact = .ok r ∧ settled? r.toJson.compact = .ok r.toJson.compact
  /-- So is its value, whatever value it was read from. -/
  settledValue : ∀ j, ofJson? j = .ok r → ofJson? r.toJson = .ok r

theorem ofString?_compact (htemperature : r.temperature = none)
    (hint : ∀ j ∈ r.freeForm, j.integral = true) (hsound : r.Sound)
    (hfits : Doc.Fits (some Doc.nestingLimit) r.toJson.depth) :
    ofString? r.toJson.compact = .ok r := by
  rw [ofString?, Doc.ofString?_compact (integral_toJson htemperature hsound hint)]
  exact undoes_reader htemperature hsound .text hfits

theorem sound_of_ofString? {s : String} (h : ofString? s = .ok r)
    (htemperature : r.temperature = none) :
    r.Sound ∧ Doc.Fits (some Doc.nestingLimit) r.toJson.depth := by
  rw [ofString?] at h
  split at h
  · exact fits_of_reader h htemperature (Doc.fits_some (by decide))
  · cases h

/-- **Requests without a temperature round-trip**, if the numbers in their
inputs and schemas are integers. -/
theorem round_trips (r : ChatRequest) (htemperature : r.temperature = none)
    (hint : ∀ j ∈ r.freeForm, j.integral = true) : RoundTrips r := by
  refine ⟨fun hsound hdepth => ?_, fun hsound => ?_, fun s hread => ?_, fun j hread => ?_⟩
  · have hle : r.toJson.depth ≤ Doc.nestingLimit - 1 := Nat.le_pred_of_lt hdepth
    exact ofString?_compact htemperature hint hsound (Doc.fits_some hle)
  · exact undoes_reader htemperature hsound .value (Doc.fits_none _)
  · -- reading it has shown that it is sound and that there is room
    obtain ⟨hsound, hfits⟩ := sound_of_ofString? hread htemperature
    have hagain := ofString?_compact htemperature hint hsound hfits
    refine ⟨?_, hagain, ?_⟩
    · rw [settled?, hread]
      rfl
    · rw [settled?, hagain]
      rfl
  · obtain ⟨hsound, -⟩ := fits_of_reader hread htemperature (Doc.fits_none _)
    exact undoes_reader htemperature hsound .value (Doc.fits_none _)

end ChatRequest

deriving instance DecidableEq for ToolDefinition
deriving instance DecidableEq for ChatMessage
deriving instance DecidableEq for ChatRequest

namespace ChatRequest

/-- A request with a call and a tool that takes nothing. -/
def sample : ChatRequest :=
  ⟨"", 0, none,
    [.withToolCalls "" [⟨"t", "f", .obj [("a", .int (-2)), ("b", .arr [.int 1])]⟩]],
    [.plain "f" "d"]⟩

/-- Its text with everything left out that may be, with everything spelled
out, and with more than is known. -/
def sampleTexts : List String :=
  ["\x7b\"messages\":[\x7b\"role\":\"assistant\",\"tool_calls\":[\x7b\"id\":\"t\"," ++
      "\"name\":\"f\",\"input\":\x7b\"b\":[1],\"a\":-2\x7d\x7d]\x7d]," ++
      "\"tools\":[\x7b\"name\":\"f\",\"description\":\"d\"\x7d]\x7d",
    "\x7b\"model\":\"\",\"max_tokens\":0,\"temperature\":null,\"messages\":[" ++
      "\x7b\"role\":\"assistant\",\"content\":\"\",\"tool_calls\":[\x7b\"id\":\"t\"," ++
      "\"name\":\"f\",\"input\":\x7b\"a\":-2,\"b\":[1]\x7d\x7d],\"tool_results\":[]\x7d]," ++
      "\"tools\":[\x7b\"name\":\"f\",\"description\":\"d\"," ++
      "\"input_schema\":\x7b\"type\":\"object\"\x7d\x7d]\x7d",
    "\x7b\"stream\":0.5,\"messages\":[\x7b\"role\":\"assistant\",\"seen\":true," ++
      "\"tool_calls\":[\x7b\"id\":\"t\",\"name\":\"f\",\"type\":\"function\"," ++
      "\"input\":\x7b\"a\":-2,\"b\":[1]\x7d\x7d]\x7d]," ++
      "\"tools\":[\x7b\"name\":\"f\",\"description\":\"d\",\"strict\":[]\x7d]\x7d"]

/-- All of these settle to the one text that the request is written as. -/
theorem round_trips_sample :
    ofString? sample.toJson.compact = .ok sample ∧
      ∀ s ∈ sampleTexts, ofString? s = .ok sample ∧ settled? s = .ok sample.toJson.compact := by
  have htrips : RoundTrips sample := round_trips sample rfl (by decide)
  have hsound : sample.Sound := ⟨by decide, by decide⟩
  have hread : ∀ s ∈ sampleTexts, ofString? s = .ok sample := by decide +kernel
  exact ⟨htrips.text hsound (by decide), fun s hs =>
    ⟨hread s hs, (htrips.settled s (hread s hs)).1⟩⟩

end ChatRequest

end Turnstile
