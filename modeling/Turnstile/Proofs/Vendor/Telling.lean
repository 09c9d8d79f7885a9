import Turnstile.Proofs.Files.Names
import Turnstile.Proofs.Json.Equality
import Turnstile.Proofs.Json.Fields
import Turnstile.Chat.Request
/-!
# What a body tells — the items of a conversation, read back

Every message says a few things: the results it holds, then its text if
there is any, then its calls. A vendor's body is to tell the same things
in the same order, each by the one who said them. A `Reading` says how a
vendor's body is read, and `Faithful` that what is read is what the
request says: the items and nothing besides, the system's texts in the
place the vendor has for them and nowhere else, the tools as they are
defined.
-/

namespace Turnstile

/-! ## What a request says -/

/-- One thing a message says, and the role it is said in. -/
inductive Item where
  | result (role : Role) (result : ToolResult)
  | text (role : Role) (text : String)
  | call (role : Role) (call : ToolCall)

namespace Item

/-- The role it is said in. -/
def role : Item → Role
  | .result role _ | .text role _ | .call role _ => role

end Item

namespace ChatMessage

/-- What a message says: its results, its text if there is any, its calls. -/
def items (m : ChatMessage) : List Item :=
  m.toolResults.map (.result m.role) ++
    ((if m.content = "" then [] else [.text m.role m.content]) ++
      m.toolCalls.map (.call m.role))

theorem role_of_mem_items {m : ChatMessage} {item : Item} (h : item ∈ m.items) :
    item.role = m.role := by
  rw [items, List.mem_append, List.mem_append] at h
  rcases h with h | h | h
  · obtain ⟨result, -, rfl⟩ := List.mem_map.mp h
    rfl
  · split at h
    · cases h
    · rw [List.mem_singleton.mp h]
      rfl
  · obtain ⟨call, -, rfl⟩ := List.mem_map.mp h
    rfl

/-- A system message a request may hold asks for no call. -/
theorem toolCalls_eq_nil_of_system {m : ChatMessage} (h : m.invalid? = none)
    (hrole : m.role = .system) : m.toolCalls = [] := by
  by_contra hcalls
  have hne : m.toolCalls.isEmpty = false := by simpa using hcalls
  rw [invalid?] at h
  simp only [hne, hrole] at h
  split at h
  · cases h
  · simp at h

end ChatMessage

namespace ChatRequest

/-- What a request says, the system's texts aside. -/
def items (r : ChatRequest) : List Item := r.conversation.flatMap ChatMessage.items

/-- The texts of the system's messages that hold any. -/
def systemTexts (r : ChatRequest) : List String :=
  ((r.messages.filter (·.role = .system)).map (·.content)).filter (· ≠ "")

/-- The request without its system messages. -/
def withoutSystem (r : ChatRequest) : ChatRequest := { r with messages := r.conversation }

theorem conversation_withoutSystem (r : ChatRequest) :
    r.withoutSystem.conversation = r.conversation := by
  simp [withoutSystem, conversation, List.filter_filter]

/-- The system prompt is made of its texts, a blank line between
neighbours; without any there is none. -/
theorem systemPrompt_eq (r : ChatRequest) :
    r.systemPrompt =
      if r.systemTexts = [] then none else some ("\n\n".intercalate r.systemTexts) := by
  have htexts : (r.messages.filter fun m => m.role == .system && !m.content.isEmpty).map
      (·.content) = r.systemTexts := by
    rw [systemTexts, List.filter_map, List.filter_filter]
    congr 1
    refine List.filter_congr fun m _ => ?_
    by_cases hrole : m.role = .system <;> by_cases htext : m.content = "" <;> simp [hrole, htext]
  have hjoin : Text.join "\n\n" r.systemTexts = "\n\n".intercalate r.systemTexts := by
    rw [← String.toList_inj, Text.toList_join, String.toList_intercalate]
  rw [systemPrompt, htexts]
  cases htext : r.systemTexts with
  | nil => simp
  | cons text rest => rw [htext] at hjoin; simp [hjoin]

theorem systemPrompt_withoutSystem (r : ChatRequest) : r.withoutSystem.systemPrompt = none := by
  have hnone : r.withoutSystem.systemTexts = [] := by
    simp [systemTexts, withoutSystem, conversation, List.filter_filter]
  rw [systemPrompt_eq, if_pos hnone]

/-- Every message of a request a vendor would accept is one it may hold. -/
theorem invalid?_of_rejected? {r : ChatRequest} (h : r.rejected? = none) {m : ChatMessage}
    (hm : m ∈ r.messages) : m.invalid? = none := by
  rw [rejected?] at h
  split at h
  · cases h
  · split at h
    · cases h
    · rename_i hvalid
      exact List.findSome?_eq_none_iff.mp hvalid m hm

end ChatRequest

/-! ## What a body tells -/

/-- One thing read in a body, and the name of who says it there. -/
inductive Told where
  /-- An id and a sign of failure are there in some formats only. -/
  | result (speaker : String) (callId? : Option String) (failed? : Option Bool)
      (content : String)
  | text (speaker text : String)
  | call (speaker : String) (id? : Option String) (name : String) (input : Json)
  deriving DecidableEq

/-- How a vendor's bodies are read. -/
structure Reading where
  /-- The messages but for the system's, each as what it tells. -/
  turns? : Json → Option (List (List Told))
  /-- What is in the place for the system's texts. -/
  system? : Json → Option String
  tools? : Json → Option (List ToolDefinition)
  /-- What is under a key, the system's texts left out where they have
  their place. -/
  besides : Json → String → Option Json
  /-- How an item is told. -/
  told : Item → Told

/-- **A body loses, duplicates and reorders nothing**, read in the
vendor's way. -/
structure Faithful (f : Reading) (encode : ChatRequest → Json) (r : ChatRequest) : Prop where
  /-- The items, in order, spread over messages none of which is empty. -/
  items : ∃ turns, f.turns? (encode r) = some turns ∧ [] ∉ turns ∧
    turns.flatten = r.items.map f.told
  /-- In the system's place are its texts, a blank line between neighbours. -/
  system : f.system? (encode r) =
    if r.systemTexts = [] then none else some ("\n\n".intercalate r.systemTexts)
  /-- Everywhere else the body is as if there were no system messages. -/
  besides : ∀ key, f.besides (encode r) key = (encode r.withoutSystem).get? key
  /-- Every tool is there once, in its place and as it is defined. -/
  tools : f.tools? (encode r) = some r.tools

/-! ## One message for one -/

namespace ChatRequest

variable (r : ChatRequest) (told : Item → Told)

/-- What is told if each message of the conversation that says anything
becomes a message of its own. -/
def toldEach : List (List Told) :=
  (r.conversation.filter (·.items ≠ [])).map fun m => m.items.map told

theorem nil_not_mem_toldEach : [] ∉ r.toldEach told := by
  intro h
  obtain ⟨m, hm, hnil⟩ := List.mem_map.mp h
  have hne : m.items ≠ [] := by simpa using (List.mem_filter.mp hm).2
  exact hne (List.map_eq_nil_iff.mp hnil)

/-- So all items are told, in order. -/
theorem flatten_toldEach : (r.toldEach told).flatten = r.items.map told := by
  rw [toldEach, items, List.map_flatMap, ← List.flatMap_def]
  induction r.conversation with
  | nil => rfl
  | cons m rest ih =>
    rw [List.flatMap_cons, ← ih]
    by_cases hnil : m.items = []
    · simp [hnil]
    · rw [List.filter_cons_of_pos (by simpa using hnil), List.flatMap_cons]

end ChatRequest

end Turnstile
