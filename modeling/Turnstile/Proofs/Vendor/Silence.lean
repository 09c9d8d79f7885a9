import Turnstile.Vendor.Chat
import Turnstile.Proofs.Vendor.Anthropic.Body
import Turnstile.Proofs.Vendor.Gemini.Body
import Turnstile.Proofs.Vendor.OpenAI.Body
/-!
# Silent requests — what is sent of a request that says nothing

A request is turned away for want of messages, but a message of the
conversation may say nothing, and then no vendor's body holds it. So a
request that is let through may be sent without any conversation. Since a
body tells the items of its request and no message in it is empty, it
holds a message exactly if there is an item to tell
(`Faithful.turns_eq_nil_iff`).
-/

namespace Turnstile

/-! ## Messages that say something -/

/-- The message holds a text, a call or a result. -/
def ChatMessage.Speaks (m : ChatMessage) : Prop :=
  m.content ≠ "" ∨ m.toolCalls ≠ [] ∨ m.toolResults ≠ []

instance : DecidablePred ChatMessage.Speaks :=
  fun m => inferInstanceAs (Decidable (m.content ≠ "" ∨ m.toolCalls ≠ [] ∨ m.toolResults ≠ []))

theorem ChatMessage.items_eq_nil_iff {m : ChatMessage} : m.items = [] ↔ ¬ m.Speaks := by
  by_cases htext : m.content = "" <;> simp [items, Speaks, htext, and_comm]

/-- A request says something if a message of its conversation does. -/
theorem ChatRequest.items_ne_nil_iff {r : ChatRequest} :
    r.items ≠ [] ↔ ∃ m ∈ r.conversation, m.Speaks := by
  simp [items, List.flatMap_eq_nil_iff, ChatMessage.items_eq_nil_iff]

/-- **No turn without an item, and no item without a turn.** -/
theorem Faithful.turns_eq_nil_iff {f : Reading} {encode : ChatRequest → Json} {r : ChatRequest}
    (h : Faithful f encode r) {turns : List (List Told)} (hread : f.turns? (encode r) = some turns) :
    turns = [] ↔ r.items = [] := by
  obtain ⟨told, htold, hne, hflat⟩ := h.items
  obtain rfl : told = turns := Option.some.inj (htold.symm.trans hread)
  rw [← List.map_eq_nil_iff (f := f.told), ← hflat, List.flatten_eq_nil_iff]
  constructor
  · rintro rfl turn hturn
    cases hturn
  · intro hall
    by_contra hturns
    obtain ⟨turn, rest, rfl⟩ := List.exists_cons_of_ne_nil hturns
    exact hne (hall turn (List.mem_cons_self ..) ▸ List.mem_cons_self ..)

/-! ## The messages of a body -/

namespace VendorKind

/-- The body a kind of vendor is sent. -/
def encode (kind : VendorKind) (model : String) (maxTokens : Nat) (stream : Bool)
    (r : ChatRequest) : Json :=
  match kind with
  | .anthropic => (Anthropic.Body.ofRequest r model maxTokens stream).toJson
  | .openAI | .compat => (OpenAI.Body.ofRequest r model maxTokens stream).toJson
  | .gemini => (Gemini.Body.ofRequest r maxTokens).toJson

/-- The messages of the conversation in a body; the system's, if it is
one of the messages there, is not counted. -/
def messagesIn (kind : VendorKind) (body : Json) : Option (List Json) :=
  match kind with
  | .anthropic => Json.itemsAt? "messages" body
  | .openAI | .compat => (Json.itemsAt? "messages" body).map OpenAI.said
  | .gemini => Json.itemsAt? "contents" body

/-- The body holds a message of the conversation. -/
def Converses (kind : VendorKind) (body : Json) : Prop :=
  ∃ messages, kind.messagesIn body = some messages ∧ messages ≠ []

/-- How the bodies a kind of vendor is sent are read. -/
def reading : VendorKind → Reading
  | .anthropic => Anthropic.reading
  | .openAI | .compat => OpenAI.reading
  | .gemini => Gemini.reading

/-- And how one message is. -/
def readTurn? : VendorKind → Json → Option (List Told)
  | .anthropic => Anthropic.Turn.read?
  | .openAI | .compat => OpenAI.Turn.read?
  | .gemini => Gemini.Turn.read?

/-- Reading goes message by message. -/
theorem turns?_reading (kind : VendorKind) (body : Json) :
    kind.reading.turns? body = (kind.messagesIn body).bind (·.mapM kind.readTurn?) := by
  cases kind with
  | anthropic | gemini => rfl
  | openAI | compat =>
    rw [messagesIn, Option.bind_map]
    rfl

variable {r : ChatRequest} (kind : VendorKind) (model : String) (maxTokens : Nat)
  (stream : Bool)

/-- Every kind is sent a faithful telling of a request that is not
rejected. -/
theorem faithful (h : r.rejected? = none) :
    Faithful kind.reading (kind.encode model maxTokens stream) r := by
  cases kind with
  | anthropic => exact Anthropic.faithful r model maxTokens stream
  | openAI | compat => exact OpenAI.faithful r model maxTokens stream
  | gemini =>
    refine Gemini.faithful r (fun m hm hrole => ?_) maxTokens
    exact ChatMessage.toolCalls_eq_nil_of_system (ChatRequest.invalid?_of_rejected? h hm) hrole

/-- **A body converses exactly if some message has something to say.** -/
theorem converses_encode_iff (h : r.rejected? = none) :
    kind.Converses (kind.encode model maxTokens stream r) ↔ ∃ m ∈ r.conversation, m.Speaks := by
  have hfaithful := kind.faithful model maxTokens stream h
  obtain ⟨turns, hturns, -⟩ := hfaithful.items
  rw [← ChatRequest.items_ne_nil_iff, ne_eq, ← hfaithful.turns_eq_nil_iff hturns, ← ne_eq]
  rw [turns?_reading] at hturns
  obtain ⟨messages, hin, hread⟩ := Option.bind_eq_some_iff.mp hturns
  have hempty : messages = [] ↔ turns = [] := by
    rw [← List.length_eq_zero_iff, ← List.length_eq_zero_iff, Json.length_of_mapM hread]
  constructor
  · rintro ⟨messages', hin', hne⟩
    obtain rfl : messages' = messages := Option.some.inj (hin'.symm.trans hin)
    exact mt hempty.mpr hne
  · exact fun hne => ⟨messages, hin, mt hempty.mp hne⟩

end VendorKind

/-- The conversation of a request that is not rejected has messages. -/
theorem ChatRequest.conversation_ne_nil {r : ChatRequest} (h : r.rejected? = none) :
    r.conversation ≠ [] := by
  intro hnil
  rw [rejected?, hnil] at h
  cases h

/-! ## What a chat sends -/

namespace Vendor

variable {v : Vendor} {r : ChatRequest} {model : String}

theorem body_eq :
    v.body r model =
      v.kind.encode model (r.maxTokensOr v.settings.maxTokens) v.settings.streaming r := by
  obtain ⟨kind, settings, key⟩ := v
  cases kind <;> rfl

/-- The request on the wire carries the body, as text. -/
theorem body_of_prepare {request : HttpRequest} (h : v.prepare r model = .ok request) :
    request.body = some (v.body r model).compact := by
  rw [prepare] at h
  split at h
  · cases h
  · split at h
    · cases h
    · rename_i hprepared
      cases h
      rw [HttpRequest.prepare_eq_ok hprepared]

/-- **What is asked of a vendor.** Of a request that is rejected nothing
is sent. Of another at most one body is, as text, and a body of it, for
whichever kind of vendor, holds a message of the conversation exactly if
some message has something to say: always, if every message does. -/
theorem chat_converses (r : ChatRequest) :
    (∀ why, r.rejected? = some why → ∀ (network : Network) (v : Vendor) (w : World),
      (v.chat network r).on w = (.error (.badRequest why), w)) ∧
    (∀ (network : Network) (v : Vendor) (w : World),
      ((v.chat network r).on w).2 = w ∨
        ∃ request model,
          request.body = some (v.kind.encode model (r.maxTokensOr v.settings.maxTokens)
            v.settings.streaming r).compact ∧
          ((v.chat network r).on w).2 = ((network.send request).on w).2) ∧
    (r.rejected? = none → ∀ (kind : VendorKind) (model : String) (maxTokens : Nat)
        (stream : Bool),
      (kind.Converses (kind.encode model maxTokens stream r) ↔
        ∃ m ∈ r.conversation, m.Speaks) ∧
      ((∀ m ∈ r.conversation, m.Speaks) →
        kind.Converses (kind.encode model maxTokens stream r))) := by
  refine ⟨fun why hwhy network v w => ?_, fun network v w => ?_,
    fun haccepted kind model maxTokens stream => ?_⟩
  · rw [chat, hwhy]
    rfl
  · rcases chat_cases network v r w with ⟨e, hfailed⟩ | ⟨model, request, hprepared, hsent, -⟩
    · rw [hfailed]
      exact Or.inl rfl
    · have hbody := body_of_prepare hprepared
      rw [body_eq] at hbody
      exact Or.inr ⟨request, model, hbody, hsent⟩
  · have hiff := kind.converses_encode_iff model maxTokens stream haccepted
    refine ⟨hiff, fun hall => hiff.mpr ?_⟩
    obtain ⟨m, hm⟩ := List.exists_mem_of_ne_nil _ (ChatRequest.conversation_ne_nil haccepted)
    exact ⟨m, hm, hall m hm⟩

/-- A question after a message that says nothing. -/
def haltingRequest : ChatRequest where
  model := ""
  maxTokens := 0
  temperature := none
  messages := [.plain .system "be brief", .plain .user "", .plain .user "why?"]
  tools := []

/-- The question reaches every vendor. -/
theorem chat_converses_halting :
    haltingRequest.rejected? = none ∧
    (∃ m ∈ haltingRequest.conversation, ¬ m.Speaks) ∧
    ∀ kind : VendorKind, kind.Converses (kind.encode "m" 9 true haltingRequest) := by
  have haccepted : haltingRequest.rejected? = none := by decide
  refine ⟨haccepted, by decide, fun kind => ?_⟩
  exact (((chat_converses haltingRequest).2.2 haccepted kind "m" 9 true).1).mpr (by decide)

/-- Only a message that says nothing. -/
def silentRequest : ChatRequest where
  model := ""
  maxTokens := 0
  temperature := none
  messages := [.plain .user ""]
  tools := []

/-- A connection to Anthropic. -/
def testVendor : Vendor where
  kind := .anthropic
  settings := ⟨some "k", "http://127.0.0.1:9", "m", 9, true, none, []⟩
  key := some "k"

/-- **A request that is let through may be sent without a conversation**:
it is not rejected, no body of it holds a message, whichever the vendor,
and such a body is sent. -/
theorem chat_silentRequest :
    silentRequest.rejected? = none ∧
    (∀ (kind : VendorKind) (model : String) (maxTokens : Nat) (stream : Bool),
      ¬ kind.Converses (kind.encode model maxTokens stream silentRequest)) ∧
    ((testVendor.chat Network.unreachable silentRequest).on (.fresh ⟨[]⟩ [])).2.requests.map
        (·.body) =
      [some "\x7b\"max_tokens\":9,\"messages\":[],\"model\":\"m\",\"stream\":true\x7d"] := by
  have haccepted : silentRequest.rejected? = none := by decide
  refine ⟨haccepted, fun kind model maxTokens stream => ?_, by decide +kernel⟩
  rw [kind.converses_encode_iff model maxTokens stream haccepted]
  decide

end Vendor

end Turnstile
