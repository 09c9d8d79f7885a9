import Turnstile.Chat.Request
import Turnstile.Vendor.Anthropic.Normalizer
import Turnstile.Vendor.Anthropic.Outgoing
import Turnstile.Vendor.Gemini.Normalizer
import Turnstile.Vendor.Gemini.Outgoing
import Turnstile.Vendor.OpenAI.Normalizer
import Turnstile.Vendor.OpenAI.Outgoing
import Turnstile.Vendor.Settings
import Turnstile.Web.Network
/-!
# Chatting with a vendor

A request that no vendor would take is rejected before anything is sent.
The answer is a run of events, read line by line or whole.
-/

namespace Turnstile

/-- Why there is no answer. -/
inductive ChatFailure where
  | configuration (text : String)
  | badRequest (text : String)
  | connection (text : String)
  | status (code : Nat) (body : String)
  | cancelled
  deriving DecidableEq, Repr, Inhabited

namespace ChatFailure

/-- The message. -/
def message : ChatFailure → String
  | .configuration text => "Configuration error: " ++ text
  | .badRequest text => "Failed to build request: " ++ text
  | .connection text => "Connection error: " ++ text
  | .status code body => "HTTP " ++ toString code ++ ": " ++ body
  | .cancelled => "Operation cancelled"

end ChatFailure

/-- A connection to a vendor. -/
structure Vendor where
  kind : VendorKind
  settings : VendorSettings
  key : Option String
  deriving DecidableEq, Repr, Inhabited

namespace Vendor

/-- The version of the Anthropic format spoken unless told otherwise. -/
def anthropicVersion : String := "2023-06-01"

/-- The key, which the vendor insists on. -/
def requireKey (kind : VendorKind) (settings : VendorSettings) : Except ChatFailure String :=
  match settings.usableKey? with
  | some key => .ok key
  | none =>
    .error (.configuration ("no API key configured for provider '" ++ kind.name ++ "' (set " ++
      kind.defaultKeyVariable ++ " or providers." ++ kind.name ++ ".api_key)"))

/-- Set a connection up. -/
def build (kind : VendorKind) (settings : VendorSettings) : Except ChatFailure Vendor :=
  match kind with
  | .compat =>
    if Text.allBlank settings.baseUrl then
      .error (.configuration "compat provider requires base_url")
    else .ok ⟨kind, settings, settings.apiKey.filter fun key => !key.isEmpty⟩
  | kind => (requireKey kind settings).map fun key => ⟨kind, settings, some key⟩

/-- Where a request goes. -/
def address (v : Vendor) (model : String) : String :=
  endpoint v.settings.baseUrl (match v.kind with
    | .anthropic => "v1/messages"
    | .openAI | .compat => "chat/completions"
    | .gemini =>
      "v1beta/models/" ++ model ++
        if v.settings.streaming then ":streamGenerateContent?alt=sse" else ":generateContent")

/-- The headers of a request. -/
def headers (v : Vendor) : List (String × String) :=
  let key := v.key.getD ""
  let json := ("content-type", "application/json")
  match v.kind with
  | .anthropic =>
    [("x-api-key", key), ("anthropic-version", v.settings.apiVersion.getD anthropicVersion), json]
  | .gemini => [("x-goog-api-key", key), json]
  | .openAI | .compat =>
    json :: v.key.toList.map (fun key => ("authorization", "Bearer " ++ key)) ++ v.settings.headers

/-- The body of a request. -/
def body (v : Vendor) (request : ChatRequest) (model : String) : Json :=
  let maxTokens := request.maxTokensOr v.settings.maxTokens
  match v.kind with
  | .anthropic => (Anthropic.Body.ofRequest request model maxTokens v.settings.streaming).toJson
  | .openAI | .compat =>
    (OpenAI.Body.ofRequest request model maxTokens v.settings.streaming).toJson
  | .gemini => (Gemini.Body.ofRequest request maxTokens).toJson

/-- The model a request is for. OpenAI's format needs one. -/
def model (v : Vendor) (request : ChatRequest) : Except ChatFailure String :=
  let model := request.modelOr v.settings.model
  match v.kind with
  | .openAI | .compat =>
    if model.isEmpty then
      .error (.configuration ("no model configured for provider '" ++ v.kind.name ++ "'"))
    else .ok model
  | _ => .ok model

/-- The request on the wire; the fields of its body are in order of
name. -/
def prepare (v : Vendor) (request : ChatRequest) (model : String) :
    Except ChatFailure HttpRequest :=
  match Url.parse (v.address model) with
  | .error _ => .error (.badRequest "builder error")
  | .ok url =>
    match HttpRequest.prepare "POST" url v.headers (some (v.body request model).compact) with
    | .error text => .error (.badRequest text)
    | .ok request => .ok request

/-- How lines become events. -/
def normalizer : VendorKind → Normalizer
  | .anthropic => Anthropic.normalizer
  | .openAI | .compat => OpenAI.normalizer
  | .gemini => Gemini.normalizer

/-- How a whole response becomes events. -/
def decodeFull : VendorKind → Bytes → Except StreamError (List ChatEvent)
  | .anthropic => Anthropic.decodeFull
  | .openAI | .compat => OpenAI.decodeFull
  | .gemini => Gemini.decodeFull

/-- The events of a response's body. -/
def events (v : Vendor) (body : Body) : List ChatEvent :=
  if v.settings.streaming then pumpEvents (normalizer v.kind) none body
  else wholeEvents (decodeFull v.kind) false body

/-- The text of an error response, nothing if it cannot be read. -/
def errorText (body : Body) : String :=
  match body.bytes with
  | .ok bytes => Utf8.decodeLossy bytes
  | .error _ => ""

/-- Ask, and read the answer. -/
def chat (network : Network) (v : Vendor) (request : ChatRequest) :
    Act ChatFailure (List ChatEvent) := do
  match request.rejected? with
  | some why => throw (.badRequest why)
  | none =>
    let model ← Act.ofExcept (v.model request)
    if (← Act.look).isCancelled then throw .cancelled
    let prepared ← Act.ofExcept (v.prepare request model)
    let response ← Act.orElse (network.send prepared) .connection
    if response.isSuccess then return v.events response.body
    else throw (.status response.status (errorText response.body))

/-- **What a chat can do.** It fails and leaves the world as it is; or a
request was prepared and sent, and nothing else was done, events being
those of the response's body. -/
theorem chat_cases (network : Network) (v : Vendor) (request : ChatRequest) (w : World) :
    (∃ e, (v.chat network request).on w = (.error e, w)) ∨
      ∃ model prepared, v.prepare request model = .ok prepared ∧
        ((v.chat network request).on w).2 = ((network.send prepared).on w).2 ∧
        ∀ events, ((v.chat network request).on w).1 = .ok events →
          ∃ response, ((network.send prepared).on w).1 = .ok response ∧
            events = v.events response.body := by
  rw [chat]
  split
  · exact Or.inl ⟨_, rfl⟩
  rw [Act.on_bind, Act.on_ofExcept]
  rcases v.model request with e | model
  · exact Or.inl ⟨e, rfl⟩
  dsimp only
  rw [Act.on_bind, Act.on_look]
  dsimp only
  split
  · exact Or.inl ⟨.cancelled, rfl⟩
  rw [Act.on_bind, Act.on_ofExcept]
  rcases hprepared : v.prepare request model with e | prepared
  · exact Or.inl ⟨e, rfl⟩
  -- sent, and whatever comes back nothing else is done
  refine Or.inr ⟨model, prepared, hprepared, ?_⟩
  dsimp only
  rw [Act.on_bind, Act.on_orElse]
  rcases (network.send prepared).on w with ⟨text | response, after⟩
  · exact ⟨rfl, fun _ h => nomatch h⟩
  dsimp only [Except.mapError]
  split
  · exact ⟨rfl, fun events h => ⟨response, rfl, (Except.ok.inj h).symm⟩⟩
  · exact ⟨rfl, fun _ h => nomatch h⟩

end Vendor

end Turnstile
