import Turnstile.Proofs.Vendor.Telling
import Turnstile.Vendor.Anthropic.Outgoing
/-!
# Anthropic — what a request body tells

A message that says anything is one turn, and an item of it one block:
the body's turns are the messages that say something (`turns_ofRequest`),
and a block is read back as the item it was made of
(`Block.read?_toJson_ofItem`). The system's texts have a field of their
own.
-/

namespace Turnstile

namespace Anthropic

open Json (textAt? flagAt? itemsAt?)

/-! ## Reading a body -/

/-- Read a block as something the speaker says. -/
def Block.read? (speaker : String) (j : Json) : Option Told :=
  if textAt? "type" j = some "text" then
    (textAt? "text" j).map (.text speaker)
  else if textAt? "type" j = some "tool_use" then do
    return .call speaker (some (← textAt? "id" j)) (← textAt? "name" j) (← j.get? "input")
  else if textAt? "type" j = some "tool_result" then do
    return .result speaker (some (← textAt? "tool_use_id" j)) (some (← flagAt? "is_error" j))
      (← textAt? "content" j)
  else none

/-- Read a message. -/
def Turn.read? (j : Json) : Option (List Told) := do
  (← itemsAt? "content" j).mapM (Block.read? (← textAt? "role" j))

/-- Read a tool. -/
def readTool? (j : Json) : Option ToolDefinition := do
  return ⟨← textAt? "name" j, ← textAt? "description" j, ← j.get? "input_schema"⟩

/-- How an item is told: by the role's name, with ids and signs of failure. -/
def told : Item → Told
  | .result role result =>
    .result role.name (some result.callId) (some result.isError) result.content
  | .text role text => .text role.name text
  | .call role call => .call role.name (some call.id) call.name call.input

/-- How a body is read. -/
def reading : Reading where
  turns? body := do (← itemsAt? "messages" body).mapM Turn.read?
  system? := textAt? "system"
  tools? body :=
    if body.get? "tools" = none then some [] else do (← itemsAt? "tools" body).mapM readTool?
  besides body key := if key = "system" then none else body.get? key
  told := told

/-! ## Turns and blocks -/

/-- The block of an item. -/
def Block.ofItem : Item → Block
  | .result _ result => .toolResult result.callId result.content result.isError
  | .text _ s => .text s
  | .call _ call => .toolUse call.id call.name call.input

theorem Block.ofMessage_eq (m : ChatMessage) : Block.ofMessage m = m.items.map Block.ofItem := by
  rw [Block.ofMessage, ChatMessage.items, List.map_append, List.map_append, List.map_map,
    List.map_map, List.append_assoc]
  by_cases htext : m.content = "" <;> simp [htext, Function.comp_def, Block.ofItem]

/-- **A block is read back as the item it was made of.** -/
theorem Block.read?_toJson_ofItem (item : Item) :
    Block.read? item.role.name (Block.ofItem item).toJson = some (told item) := by
  cases item <;>
    simp [Block.read?, Block.ofItem, Block.toJson, told, Item.role, textAt?, flagAt?,
      Json.asString?]

/-- The turn of a message. -/
def Turn.ofMessage (m : ChatMessage) : Turn := ⟨m.role, m.items.map Block.ofItem⟩

/-- So a turn is read back as what its message says. -/
theorem Turn.read?_toJson_ofMessage (m : ChatMessage) :
    Turn.read? (Turn.ofMessage m).toJson = some (m.items.map told) := by
  have hblocks : ((m.items.map Block.ofItem).map Block.toJson).mapM
      (Block.read? m.role.name) = some (m.items.map told) := by
    rw [List.map_map]
    refine Json.mapM_map_eq_some_map fun item h => ?_
    rw [← ChatMessage.role_of_mem_items h]
    exact Block.read?_toJson_ofItem item
  simp [Turn.read?, Turn.toJson, Turn.ofMessage, textAt?, itemsAt?, Json.asString?, ← hblocks]

/-- **The turns of a body are the messages that say anything.** -/
theorem turns_ofRequest (r : ChatRequest) (model : String) (maxTokens : Nat) (stream : Bool) :
    (Body.ofRequest r model maxTokens stream).turns =
      (r.conversation.filter (·.items ≠ [])).map Turn.ofMessage := by
  rw [Body.ofRequest]
  dsimp only
  induction r.conversation with
  | nil => rfl
  | cons m rest ih =>
    by_cases hnil : m.items = []
    · have hnone : Turn.ofMessage? m = none := by
        rw [Turn.ofMessage?, Block.ofMessage_eq, hnil]
        rfl
      rw [List.filterMap_cons_none hnone, List.filter_cons_of_neg (by simpa using hnil), ih]
    · have hsome : Turn.ofMessage? m = some (Turn.ofMessage m) := by
        obtain ⟨item, rest, hitems⟩ := List.exists_cons_of_ne_nil hnil
        rw [Turn.ofMessage?, Block.ofMessage_eq, hitems, Turn.ofMessage, hitems]
        rfl
      rw [List.filterMap_cons_some hsome, List.filter_cons_of_pos (by simpa using hnil), ih,
        List.map_cons]

/-! ## The fields of a body -/

namespace Body

variable (b : Body)

theorem get?_messages : b.toJson.get? "messages" = some (.arr (b.turns.map Turn.toJson)) := by
  simp [toJson]

theorem get?_system : b.toJson.get? "system" = b.system.map .str := by
  simp [toJson]

theorem get?_tools :
    b.toJson.get? "tools" =
      if b.tools = [] then none else some (.arr (b.tools.map ToolDefinition.toJson)) := by
  simp [toJson]

/-- No other field has to do with the system. -/
theorem get?_of_ne_system {key : String} (hkey : key ≠ "system") :
    { b with system := none }.toJson.get? key = b.toJson.get? key := by
  simp [toJson, hkey.symm]

end Body

/-- **What the body tells is what the request says.** -/
theorem faithful (r : ChatRequest) (model : String) (maxTokens : Nat) (stream : Bool) :
    Faithful reading (fun r => (Body.ofRequest r model maxTokens stream).toJson) r where
  items := by
    have hread : (((r.conversation.filter (·.items ≠ [])).map Turn.ofMessage).map
        Turn.toJson).mapM Turn.read? = some (r.toldEach told) := by
      rw [List.map_map]
      exact Json.mapM_map_eq_some_map fun m _ => Turn.read?_toJson_ofMessage m
    refine ⟨r.toldEach told, ?_, r.nil_not_mem_toldEach told, r.flatten_toldEach told⟩
    simp only [reading, itemsAt?, Body.get?_messages, turns_ofRequest]
    exact hread
  system := by
    simp only [reading, textAt?, Body.get?_system]
    rw [Body.ofRequest, ← ChatRequest.systemPrompt_eq]
    cases r.systemPrompt <;> rfl
  besides key := by
    have hbody : Body.ofRequest r.withoutSystem model maxTokens stream =
        { Body.ofRequest r model maxTokens stream with system := none } := by
      simp only [Body.ofRequest, ChatRequest.systemPrompt_withoutSystem,
        ChatRequest.conversation_withoutSystem]
      rfl
    simp only [reading, hbody]
    split
    · rename_i hkey
      rw [hkey, Body.get?_system]
      rfl
    · rename_i hkey
      exact (Body.get?_of_ne_system _ hkey).symm
  tools := by
    have hone (d : ToolDefinition) : readTool? d.toJson = some d := by
      simp [readTool?, ToolDefinition.toJson, textAt?, Json.asString?]
    have hread := Json.mapM_map_eq_some hone r.tools
    simp only [reading, itemsAt?, Body.get?_tools, Body.ofRequest]
    by_cases htools : r.tools = []
    · simp [htools]
    · simpa [htools] using hread

end Anthropic

end Turnstile
