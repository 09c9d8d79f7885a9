import Turnstile.Proofs.Vendor.Telling
import Turnstile.Vendor.OpenAI.Outgoing
/-!
# OpenAI — what a request body tells

A message is taken apart here: each of its results is a turn of its own,
and its text and calls are one more. Read in order, the turns a message
becomes tell its items (`tells_ofMessage`). The system's texts lead the
list of messages, as a message in the system's name; no other is.
-/

namespace Turnstile

namespace OpenAI

open Json (textAt? itemsAt?)

/-! ## Reading a body -/

/-- Read an entry of a call. -/
def readCall? (speaker : String) (j : Json) : Option Told := do
  let function ← j.get? "function"
  return .call speaker (some (← textAt? "id" j)) (← textAt? "name" function)
    (.str (← textAt? "arguments" function))

/-- Read a text that need not be there. -/
def readText? (speaker : String) (j : Json) : Option (List Told) :=
  match j.get? "content" with
  | some .null => some []
  | some (.str s) => some [.text speaker s]
  | _ => none

/-- Read the calls, if there are any. -/
def readCalls? (speaker : String) (j : Json) : Option (List Told) :=
  if j.get? "tool_calls" = none then some []
  else do (← itemsAt? "tool_calls" j).mapM (readCall? speaker)

/-- Read a message that is not the system's. -/
def Turn.read? (j : Json) : Option (List Told) := do
  let speaker ← textAt? "role" j
  if speaker = "tool" then
    return [.result speaker (some (← textAt? "tool_call_id" j)) none (← textAt? "content" j)]
  else if speaker = "system" then none
  else return (← readText? speaker j) ++ (← readCalls? speaker j)

/-- A message in the system's name. -/
def isSystem (j : Json) : Bool := textAt? "role" j == some "system"

/-- The messages but for those the system's texts lead with. -/
def said (messages : List Json) : List Json := messages.dropWhile isSystem

/-- The text of a result; that of a failed call says so. -/
def toldResult (result : ToolResult) : String :=
  if result.isError = true then "Error: " ++ result.content else result.content

/-- How an item is told: a result in the name of a tool, the input of a
call as JSON text. -/
def told : Item → Told
  | .result _ result => .result "tool" (some result.callId) none (toldResult result)
  | .text role s => .text role.name s
  | .call role call => .call role.name (some call.id) call.name (.str call.input.compact)

/-- Read a tool. -/
def readTool? (j : Json) : Option ToolDefinition := do
  let function ← j.get? "function"
  return ⟨← textAt? "name" function, ← textAt? "description" function,
    ← function.get? "parameters"⟩

/-- How a body is read. -/
def reading : Reading where
  turns? body := do (said (← itemsAt? "messages" body)).mapM Turn.read?
  system? body := do
    textAt? "content" (← (← itemsAt? "messages" body).head?.filter isSystem)
  tools? body :=
    if body.get? "tools" = none then some [] else do (← itemsAt? "tools" body).mapM readTool?
  besides body key :=
    if key = "messages" then (itemsAt? key body).map fun messages => .arr (said messages)
    else body.get? key
  told := told

/-! ## Turns -/

/-- What can be read is not in the system's name. -/
theorem isSystem_eq_false_of_read? {j : Json} {tolds : List Told}
    (h : Turn.read? j = some tolds) : isSystem j = false := by
  rw [isSystem, beq_eq_false_iff_ne]
  intro hsystem
  rw [Turn.read?, hsystem] at h
  simp at h

/-- The turns tell something each, and together these items; none is in
the system's name. -/
structure Tells (turns : List Turn) (items : List Item) : Prop where
  read : ∃ tolds, (turns.map Turn.toJson).mapM Turn.read? = some tolds ∧ [] ∉ tolds ∧
    tolds.flatten = items.map told
  notSystem : ∀ turn ∈ turns, isSystem turn.toJson = false

theorem tells_nil : Tells [] [] where
  read := ⟨[], rfl, by simp, rfl⟩
  notSystem turn h := by cases h

/-- What is said first is told first. -/
theorem Tells.append {ts us : List Turn} {xs ys : List Item} (h : Tells ts xs)
    (h' : Tells us ys) : Tells (ts ++ us) (xs ++ ys) where
  read := by
    obtain ⟨as, has, hane, haflat⟩ := h.read
    obtain ⟨bs, hbs, hbne, hbflat⟩ := h'.read
    refine ⟨as ++ bs, ?_, ?_, ?_⟩
    · rw [List.map_append, List.mapM_append, has, hbs]
      rfl
    · rw [List.mem_append]
      exact not_or.mpr ⟨hane, hbne⟩
    · rw [List.flatten_append, haflat, hbflat, List.map_append]
  notSystem := List.forall_mem_append.mpr ⟨h.notSystem, h'.notSystem⟩

/-- A turn that is read as some items tells them. -/
theorem tells_singleton {turn : Turn} {items : List Item} (hne : items ≠ [])
    (h : Turn.read? turn.toJson = some (items.map told)) : Tells [turn] items where
  read := by
    refine ⟨[items.map told], ?_, ?_, by simp⟩
    · rw [List.map_singleton, List.mapM_cons, h]
      rfl
    · rw [List.mem_singleton]
      intro hnil
      exact hne (List.map_eq_nil_iff.mp hnil.symm)
  notSystem t ht := by
    rw [List.mem_singleton.mp ht]
    exact isSystem_eq_false_of_read? h

/-- **Each result is told in a turn of its own.** -/
theorem tells_results (role : Role) (results : List ToolResult) :
    Tells (results.map fun r => .tool r.callId (Turn.resultText r))
      (results.map (.result role)) := by
  induction results with
  | nil => exact tells_nil
  | cons result rest ih =>
    have hone : Tells [.tool result.callId (Turn.resultText result)] [.result role result] := by
      refine tells_singleton (by simp) ?_
      simp [Turn.read?, Turn.toJson, told, textAt?, Json.asString?, Turn.resultText, toldResult]
    exact hone.append ih

/-- The calls of a turn are read back in order. -/
theorem readCalls?_toJson (role : Role) (text : Option String) (calls : List ToolCall) :
    readCalls? role.name (Turn.plain role text calls).toJson =
      some (calls.map fun call => told (.call role call)) := by
  have hcalls : (calls.map Turn.callToJson).mapM (readCall? role.name) =
      some (calls.map fun call => told (.call role call)) := by
    refine Json.mapM_map_eq_some_map fun call _ => ?_
    simp [readCall?, Turn.callToJson, told, textAt?, Json.asString?]
  by_cases hnil : calls = []
  · simp [readCalls?, Turn.toJson, hnil]
  · simpa [readCalls?, Turn.toJson, itemsAt?, hnil] using hcalls

/-- So is its text. -/
theorem readText?_toJson (role : Role) (text : Option String) (calls : List ToolCall) :
    readText? role.name (Turn.plain role text calls).toJson =
      some (text.toList.map fun s => told (.text role s)) := by
  cases text <;> simp [readText?, Turn.toJson, told]

/-- **Text and calls are told in one turn**, unless there is neither. -/
theorem tells_plain {m : ChatMessage} (hrole : m.role ≠ .system) :
    Tells (if m.content.isEmpty && m.toolCalls.isEmpty then []
        else [.plain m.role (if m.content.isEmpty then none else some m.content) m.toolCalls])
      ((if m.content = "" then [] else [.text m.role m.content]) ++
        m.toolCalls.map (.call m.role)) := by
  by_cases hnone : m.content = "" ∧ m.toolCalls = []
  · simpa [hnone] using tells_nil
  · have hsaid : ¬ (m.content.isEmpty && m.toolCalls.isEmpty) = true := by simpa using hnone
    rw [if_neg hsaid]
    refine tells_singleton ?_ ?_
    · intro hnil
      rw [List.append_eq_nil_iff, List.map_eq_nil_iff] at hnil
      exact hnone ⟨by simpa using hnil.1, hnil.2⟩
    · have hspeaker : textAt? "role" (Turn.plain m.role
          (if m.content.isEmpty then none else some m.content) m.toolCalls).toJson =
          some m.role.name := by
        simp [Turn.toJson, textAt?, Json.asString?]
      have htool : m.role.name ≠ "tool" := by
        cases m.role <;> decide
      have hsystem : m.role.name ≠ "system" := by
        cases hm : m.role with
        | system => exact absurd hm hrole
        | user => decide
        | assistant => decide
      rw [Turn.read?, hspeaker]
      simp only [Option.bind_eq_bind, Option.bind_some, if_neg htool, if_neg hsystem,
        readText?_toJson, readCalls?_toJson]
      by_cases htext : m.content = "" <;> simp [htext, Function.comp_def]

/-- **A message tells its items**, whatever the number of turns. -/
theorem tells_ofMessage {m : ChatMessage} (hrole : m.role ≠ .system) :
    Tells (Turn.ofMessage m) m.items :=
  (tells_results m.role m.toolResults).append (tells_plain hrole)

/-- So does a conversation. -/
theorem tells_flatMap {ms : List ChatMessage} (h : ∀ m ∈ ms, m.role ≠ .system) :
    Tells (ms.flatMap Turn.ofMessage) (ms.flatMap ChatMessage.items) := by
  induction ms with
  | nil => exact tells_nil
  | cons m rest ih =>
    obtain ⟨hm, hrest⟩ := List.forall_mem_cons.mp h
    exact (tells_ofMessage hm).append (ih hrest)

/-! ## The system's texts -/

/-- The system's message is left out of what is said, and nothing else. -/
theorem said_toJson (prompt : Option String) {turns : List Turn} {items : List Item}
    (h : Tells turns items) :
    said ((prompt.toList.map Turn.system ++ turns).map Turn.toJson) = turns.map Turn.toJson := by
  have hturns : said (turns.map Turn.toJson) = turns.map Turn.toJson := by
    cases turns with
    | nil => rfl
    | cons turn rest =>
      have hfirst := h.notSystem turn (List.mem_cons_self ..)
      rw [said, List.map_cons, List.dropWhile_cons_of_neg (by simp [hfirst])]
  cases prompt with
  | none => exact hturns
  | some s =>
    have hsystem : isSystem (Turn.system s).toJson = true := by
      simp [isSystem, Turn.toJson, textAt?, Json.asString?]
    change said ((Turn.system s).toJson :: turns.map Turn.toJson) = _
    rw [said, List.dropWhile_cons_of_pos hsystem]
    exact hturns

/-- It is the first message, if there is one. -/
theorem head?_filter_toJson (prompt : Option String) {turns : List Turn} {items : List Item}
    (h : Tells turns items) :
    ((prompt.toList.map Turn.system ++ turns).map Turn.toJson).head?.filter isSystem =
      prompt.map fun s => (Turn.system s).toJson := by
  cases prompt with
  | none =>
    cases turns with
    | nil => rfl
    | cons turn rest =>
      have hfirst := h.notSystem turn (List.mem_cons_self ..)
      simp [hfirst]
  | some s => simp [isSystem, Turn.toJson, textAt?, Json.asString?]

/-! ## The fields of a body -/

namespace Body

variable (b : Body)

theorem get?_messages : b.toJson.get? "messages" = some (.arr (b.turns.map Turn.toJson)) := by
  cases hs : b.stream <;> simp [toJson, hs]

theorem get?_tools :
    b.toJson.get? "tools" =
      if b.tools = [] then none else some (.arr (b.tools.map toolToJson)) := by
  cases hs : b.stream <;> simp [toJson, hs]

/-- No other field has to do with the messages. -/
theorem get?_of_ne_messages {key : String} (hkey : key ≠ "messages") (turns : List Turn) :
    { b with turns := turns }.toJson.get? key = b.toJson.get? key := by
  cases hs : b.stream <;> simp [toJson, hs, hkey.symm]

end Body

/-- **What the body tells is what the request says.** -/
theorem faithful (r : ChatRequest) (model : String) (maxTokens : Nat) (stream : Bool) :
    Faithful reading (fun r => (Body.ofRequest r model maxTokens stream).toJson) r := by
  have htells : Tells (r.conversation.flatMap Turn.ofMessage) r.items := by
    refine tells_flatMap fun m hm => ?_
    simpa using (List.mem_filter.mp hm).2
  refine ⟨?_, ?_, fun key => ?_, ?_⟩
  · obtain ⟨turns, hturns, hall⟩ := htells.read
    refine ⟨turns, ?_, hall⟩
    simp only [reading, itemsAt?, Body.get?_messages, Body.ofRequest]
    rw [Option.bind_eq_bind, Option.bind_some, said_toJson r.systemPrompt htells]
    exact hturns
  · simp only [reading, itemsAt?, Body.get?_messages, Body.ofRequest]
    rw [Option.bind_eq_bind, Option.bind_some, Option.bind_eq_bind,
      head?_filter_toJson r.systemPrompt htells, ← ChatRequest.systemPrompt_eq]
    cases r.systemPrompt with
    | none => rfl
    | some s => simp [Turn.toJson, textAt?, Json.asString?]
  · have hbody : Body.ofRequest r.withoutSystem model maxTokens stream =
        { Body.ofRequest r model maxTokens stream with
          turns := r.conversation.flatMap Turn.ofMessage } := by
      simp only [Body.ofRequest, ChatRequest.systemPrompt_withoutSystem,
        ChatRequest.conversation_withoutSystem]
      rfl
    simp only [reading, hbody]
    by_cases hkey : key = "messages"
    · subst hkey
      simp only [if_pos, itemsAt?, Body.get?_messages, Option.map_some]
      rw [Body.ofRequest, said_toJson r.systemPrompt htells]
    · rw [if_neg hkey]
      exact (Body.get?_of_ne_messages _ hkey _).symm
  · have hone (d : ToolDefinition) : readTool? (Body.toolToJson d) = some d := by
      simp [readTool?, Body.toolToJson, textAt?, Json.asString?]
    have hread := Json.mapM_map_eq_some hone r.tools
    simp only [reading, itemsAt?, Body.get?_tools, Body.ofRequest]
    by_cases htools : r.tools = []
    · simp [htools]
    · simpa [htools] using hread

end OpenAI

end Turnstile
