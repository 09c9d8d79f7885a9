import Turnstile.Proofs.Vendor.Telling
import Turnstile.Vendor.Gemini.Outgoing
/-!
# Gemini — what a request body tells

A result goes out under the name its call was made by, and that is looked
up by position among all messages while the body holds those of the
conversation. The body is therefore told here as a pass over the messages
that carries along what is known of names (`turnsFrom`): each message is
written with the names known so far, and adds those of its own calls.
A system message that asks for no call adds nothing and says nothing, so
it makes no difference to the pass (`turnsFrom_conversation`).
-/

namespace Turnstile

namespace Gemini

open Json (textAt? itemsAt?)

/-! ## A pass over the messages -/

/-- The name that goes with an id, as far as any is known. -/
abbrev Names := String → Option String

/-- What is known of names once a message was said: its calls come before
what was known, and the first of them with an id stands for it. -/
def Names.after (names : Names) (m : ChatMessage) : Names := fun id =>
  ((m.toolCalls.find? (·.id == id)).map (·.name)).or (names id)

/-- A message without calls tells no names. -/
theorem Names.after_of_toolCalls {names : Names} {m : ChatMessage} (h : m.toolCalls = []) :
    names.after m = names := by
  funext id
  rw [Names.after, h]
  rfl

/-- The part of an item. -/
def Part.ofItem (names : Names) : Item → Part
  | .result _ result =>
    .functionResponse (vendorId? result.callId) ((names result.callId).getD result.callId)
      result.isError result.content
  | .text _ s => .text s
  | .call _ call => .functionCall (vendorId? call.id) call.name call.input

/-- The turn of a message. -/
def Turn.ofMessage (names : Names) (m : ChatMessage) : Turn :=
  ⟨m.role, m.items.map (Part.ofItem names)⟩

/-- The turns of messages; those of the system and those that say nothing
have none. -/
def turnsFrom (names : Names) : List ChatMessage → List Turn
  | [] => []
  | m :: rest =>
    if m.role = .system ∨ m.items = [] then turnsFrom (names.after m) rest
    else Turn.ofMessage names m :: turnsFrom (names.after m) rest

/-- What is known of names once some messages were said. -/
def Names.afterAll (names : Names) (ms : List ChatMessage) : Names := ms.foldl Names.after names

/-- A pass can be interrupted. -/
theorem turnsFrom_append (names : Names) (ms more : List ChatMessage) :
    turnsFrom names (ms ++ more) =
      turnsFrom names ms ++ turnsFrom (names.afterAll ms) more := by
  induction ms generalizing names with
  | nil => rfl
  | cons m rest ih =>
    rw [List.cons_append, turnsFrom, turnsFrom, ih]
    split <;> rfl

/-- **System messages that ask for no call make no difference.** -/
theorem turnsFrom_conversation (names : Names) {ms : List ChatMessage}
    (h : ∀ m ∈ ms, m.role = .system → m.toolCalls = []) :
    turnsFrom names (ms.filter (·.role != .system)) = turnsFrom names ms := by
  induction ms generalizing names with
  | nil => rfl
  | cons m rest ih =>
    obtain ⟨hm, hrest⟩ := List.forall_mem_cons.mp h
    by_cases hrole : m.role = .system
    · rw [List.filter_cons_of_neg (by simpa using hrole), turnsFrom, if_pos (Or.inl hrole),
        Names.after_of_toolCalls (hm hrole)]
      exact ih names hrest
    · rw [List.filter_cons_of_pos (by simpa using hrole), turnsFrom, turnsFrom, ih _ hrest]

/-! ## The turns of a body -/

/-- The names known when a message is written, found by looking back from
its position. -/
theorem toolNameForCall_eq (r : ChatRequest) (before rest : List ChatMessage)
    (h : r.messages = before ++ rest) (id : String) :
    r.toolNameForCall before.length id = Names.afterAll (fun _ => none) before id := by
  have htake : r.messages.take before.length = before := by
    rw [h, List.take_left']
    rfl
  rw [ChatRequest.toolNameForCall, htake]
  clear h htake
  induction before using List.reverseRecOn with
  | nil => rfl
  | append_singleton init m ih =>
    rw [List.reverse_append, List.reverse_singleton, List.singleton_append, List.flatMap_cons,
      List.find?_append, Names.afterAll, List.foldl_append, List.foldl_cons, List.foldl_nil,
      Names.after]
    rw [Names.afterAll] at ih
    rw [← ih]
    cases m.toolCalls.find? (·.id == id) <;> rfl

theorem Part.ofMessage_eq (r : ChatRequest) (index : Nat) (m : ChatMessage) :
    Part.ofMessage r index m = m.items.map (Part.ofItem (r.toolNameForCall index)) := by
  rw [Part.ofMessage, ChatMessage.items, List.map_append, List.map_append, List.map_map,
    List.map_map, List.append_assoc]
  by_cases htext : m.content = "" <;> simp [htext, Function.comp_def, Part.ofItem]

/-- A message becomes the turn the pass gives it. -/
theorem Turn.ofMessage?_eq (r : ChatRequest) (index : Nat) (m : ChatMessage) :
    Turn.ofMessage? r index m =
      if m.role = .system ∨ m.items = [] then none
      else some (Turn.ofMessage (r.toolNameForCall index) m) := by
  rw [Turn.ofMessage?, Part.ofMessage_eq]
  by_cases hrole : m.role = .system
  · simp [hrole]
  · cases hitems : m.items with
    | nil => simp [hrole]
    | cons item rest => simp [hrole, Turn.ofMessage, hitems]

/-- **The turns of a body are those of the pass.** -/
theorem turns_ofRequest (r : ChatRequest) (maxTokens : Nat) :
    (Body.ofRequest r maxTokens).turns = turnsFrom (fun _ => none) r.messages := by
  -- from any position on, with what is known from the messages before it
  have hpass (before rest : List ChatMessage) (h : r.messages = before ++ rest) :
      (rest.zipIdx before.length).filterMap (fun p => Turn.ofMessage? r p.2 p.1) =
        turnsFrom (Names.afterAll (fun _ => none) before) rest := by
    induction rest generalizing before with
    | nil => rfl
    | cons m rest ih =>
      have hnames : r.toolNameForCall before.length =
          Names.afterAll (fun _ => none) before := by
        funext id
        exact toolNameForCall_eq r before (m :: rest) h id
      have hrest := ih (before ++ [m]) (by rw [h]; simp)
      rw [List.length_append, List.length_singleton, Names.afterAll, List.foldl_append,
        List.foldl_cons, List.foldl_nil] at hrest
      rw [List.zipIdx_cons, turnsFrom]
      by_cases hsilent : m.role = .system ∨ m.items = []
      · have hnone : Turn.ofMessage? r before.length m = none := by
          rw [Turn.ofMessage?_eq, if_pos hsilent]
        rw [List.filterMap_cons]
        simp only [hnone, if_pos hsilent]
        exact hrest
      · have hsome : Turn.ofMessage? r before.length m =
            some (Turn.ofMessage (Names.afterAll (fun _ => none) before) m) := by
          rw [Turn.ofMessage?_eq, if_neg hsilent, hnames]
        rw [List.filterMap_cons]
        simp only [hsome, if_neg hsilent]
        exact congrArg _ hrest
  exact hpass [] r.messages rfl

/-! ## Reading a body -/

/-- Read a part as something the speaker says. -/
def Part.read? (speaker : String) (j : Json) : Option Told :=
  match j.get? "text", j.get? "functionCall", j.get? "functionResponse" with
  | some (.str s), none, none => some (.text speaker s)
  | none, some call, none => do
    return .call speaker (textAt? "id" call) (← textAt? "name" call) (← call.get? "args")
  | none, none, some answer => do
    let response ← answer.get? "response"
    match textAt? "error" response, textAt? "output" response with
    | some s, none => return .result speaker (textAt? "id" answer) (some true) s
    | none, some s => return .result speaker (textAt? "id" answer) (some false) s
    | _, _ => none
  | _, _, _ => none

/-- Read a message. -/
def Turn.read? (j : Json) : Option (List Told) := do
  (← itemsAt? "parts" j).mapM (Part.read? (← textAt? "role" j))

/-- Read a tool. -/
def readTool? (j : Json) : Option ToolDefinition := do
  return ⟨← textAt? "name" j, ← textAt? "description" j, ← j.get? "parameters"⟩

/-- Read the only item of a list. -/
def only? (items : List Json) : Option Json :=
  match items with
  | [j] => some j
  | _ => none

/-- How an item is told: with the id the vendor gave, if it gave one, and
what a result is under a key of its own. -/
def told : Item → Told
  | .result role result =>
    .result (Turn.roleName role) (vendorId? result.callId) (some result.isError) result.content
  | .text role s => .text (Turn.roleName role) s
  | .call role call => .call (Turn.roleName role) (vendorId? call.id) call.name call.input

/-- How a body is read. -/
def reading : Reading where
  turns? body := do (← itemsAt? "contents" body).mapM Turn.read?
  system? body := do
    textAt? "text" (← only? (← itemsAt? "parts" (← body.get? "systemInstruction")))
  tools? body :=
    if body.get? "tools" = none then some []
    else do
      let declared ← only? (← itemsAt? "tools" body)
      (← itemsAt? "functionDeclarations" declared).mapM readTool?
  besides body key := if key = "systemInstruction" then none else body.get? key
  told := told

/-- **A part is read back as the item it was made of**, whatever names are
known. -/
theorem Part.read?_toJson_ofItem (names : Names) (item : Item) :
    Part.read? (Turn.roleName item.role) (Part.ofItem names item).toJson =
      some (told item) := by
  cases item with
  | result role result =>
    cases hid : vendorId? result.callId <;> cases herror : result.isError <;>
      simp [Part.read?, Part.ofItem, Part.toJson, Part.idField, told, Item.role, textAt?,
        Json.asString?, hid, herror]
  | text role s => simp [Part.read?, Part.ofItem, Part.toJson, told, Item.role]
  | call role call =>
    cases hid : vendorId? call.id <;>
      simp [Part.read?, Part.ofItem, Part.toJson, Part.idField, told, Item.role, textAt?,
        Json.asString?, hid]

/-- So a turn is read back as what its message says. -/
theorem Turn.read?_toJson_ofMessage (names : Names) (m : ChatMessage) :
    Turn.read? (Turn.ofMessage names m).toJson = some (m.items.map told) := by
  have hparts : ((m.items.map (Part.ofItem names)).map Part.toJson).mapM
      (Part.read? (Turn.roleName m.role)) = some (m.items.map told) := by
    rw [List.map_map]
    refine Json.mapM_map_eq_some_map fun item h => ?_
    rw [← ChatMessage.role_of_mem_items h]
    exact Part.read?_toJson_ofItem names item
  simp [Turn.read?, Turn.toJson, Turn.ofMessage, textAt?, itemsAt?, Json.asString?, ← hparts]

/-- **The turns of a pass tell what the messages say**, those of the
system aside. -/
theorem mapM_read?_turnsFrom (names : Names) (ms : List ChatMessage) :
    ((turnsFrom names ms).map Turn.toJson).mapM Turn.read? =
      some (((ms.filter (·.role != .system)).filter (·.items ≠ [])).map
        fun m => m.items.map told) := by
  induction ms generalizing names with
  | nil => rfl
  | cons m rest ih =>
    rw [turnsFrom]
    by_cases hsilent : m.role = .system ∨ m.items = []
    · rw [if_pos hsilent, ih]
      rcases hsilent with hrole | hnil
      · simp [hrole]
      · by_cases hrole : m.role = .system <;> simp [hrole, hnil]
    · rw [if_neg hsilent, List.map_cons, List.mapM_cons, Turn.read?_toJson_ofMessage, ih]
      obtain ⟨hrole, hne⟩ := not_or.mp hsilent
      simp [hrole, hne]

/-! ## The fields of a body -/

namespace Body

variable (b : Body)

theorem get?_contents : b.toJson.get? "contents" = some (.arr (b.turns.map Turn.toJson)) := by
  simp [toJson]

theorem get?_systemInstruction :
    b.toJson.get? "systemInstruction" =
      b.system.map fun s => .ofFields [("parts", .arr [(Part.text s).toJson])] := by
  simp [toJson]

theorem get?_tools :
    b.toJson.get? "tools" =
      if b.tools = [] then none
      else some (.arr [.ofFields [("functionDeclarations", .arr (b.tools.map toolToJson))]]) := by
  simp [toJson]

/-- No other field has to do with the system. -/
theorem get?_of_ne_systemInstruction {key : String} (hkey : key ≠ "systemInstruction") :
    { b with system := none }.toJson.get? key = b.toJson.get? key := by
  simp [toJson, hkey.symm]

end Body

/-- **What the body tells is what the request says**, if its system
messages ask for no call. -/
theorem faithful (r : ChatRequest)
    (hsystem : ∀ m ∈ r.messages, m.role = .system → m.toolCalls = []) (maxTokens : Nat) :
    Faithful reading (fun r => (Body.ofRequest r maxTokens).toJson) r where
  items := by
    refine ⟨r.toldEach told, ?_, r.nil_not_mem_toldEach told, r.flatten_toldEach told⟩
    simp only [reading, itemsAt?, Body.get?_contents, turns_ofRequest]
    exact mapM_read?_turnsFrom _ r.messages
  system := by
    simp only [reading, Body.get?_systemInstruction, Body.ofRequest]
    rw [← ChatRequest.systemPrompt_eq]
    cases r.systemPrompt with
    | none => rfl
    | some s => simp [itemsAt?, textAt?, only?, Part.toJson, Json.asString?]
  besides key := by
    have hturns : (Body.ofRequest r.withoutSystem maxTokens).turns =
        (Body.ofRequest r maxTokens).turns := by
      rw [turns_ofRequest, turns_ofRequest]
      exact turnsFrom_conversation _ hsystem
    have hbody : Body.ofRequest r.withoutSystem maxTokens =
        { Body.ofRequest r maxTokens with system := none } := by
      simp only [Body.ofRequest] at hturns ⊢
      rw [hturns, ChatRequest.systemPrompt_withoutSystem]
      rfl
    simp only [reading, hbody]
    split
    · rename_i hkey
      rw [hkey, Body.get?_systemInstruction]
      rfl
    · rename_i hkey
      exact (Body.get?_of_ne_systemInstruction _ hkey).symm
  tools := by
    have hone (d : ToolDefinition) : readTool? (Body.toolToJson d) = some d := by
      simp [readTool?, Body.toolToJson, textAt?, Json.asString?]
    have hread := Json.mapM_map_eq_some hone r.tools
    simp only [reading, itemsAt?, Body.get?_tools, Body.ofRequest]
    by_cases htools : r.tools = []
    · simp [htools]
    · simpa [htools, only?] using hread

end Gemini

end Turnstile
