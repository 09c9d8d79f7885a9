import Turnstile.Proofs.Vendor.Anthropic.Body
import Turnstile.Proofs.Vendor.Gemini.Body
import Turnstile.Proofs.Vendor.OpenAI.Body
/-!
# Every vendor is told the same

Whatever the vendor, the body of a request that no vendor would reject
tells what the request says, each item once and in its place.
-/

namespace Turnstile

/-- **The bodies lose, duplicate and reorder nothing.** Read in its
vendor's way, each is a faithful telling of the request: the items of the
conversation in order and by whom they are said, the system's texts in
their own place only, and the tools as they are defined. -/
theorem bodies_faithful (r : ChatRequest) (h : r.rejected? = none) (model : String)
    (maxTokens : Nat) (stream : Bool) :
    Faithful Anthropic.reading
      (fun r => (Anthropic.Body.ofRequest r model maxTokens stream).toJson) r ∧
    Faithful OpenAI.reading
      (fun r => (OpenAI.Body.ofRequest r model maxTokens stream).toJson) r ∧
    Faithful Gemini.reading (fun r => (Gemini.Body.ofRequest r maxTokens).toJson) r := by
  have hsystem (m : ChatMessage) (hm : m ∈ r.messages) (hrole : m.role = .system) :
      m.toolCalls = [] :=
    ChatMessage.toolCalls_eq_nil_of_system (ChatRequest.invalid?_of_rejected? h hm) hrole
  exact ⟨Anthropic.faithful r model maxTokens stream, OpenAI.faithful r model maxTokens stream,
    Gemini.faithful r hsystem maxTokens⟩

/-- Two calls, answered out of order and one of them with an error, a
question with the answers, and system messages before and between. -/
def busyRequest : ChatRequest where
  model := ""
  maxTokens := 0
  temperature := none
  messages := [.plain .system "be brief", .plain .user "list",
    .withToolCalls "" [⟨"a", "shell", .obj [("cmd", .str "ls")]⟩, ⟨"b", "clock", .empty⟩],
    .plain .system "", .plain .system "use tools",
    ⟨.user, "and now?", [], [⟨"b", "no clock", true⟩, ⟨"a", "x y", false⟩]⟩,
    .plain .assistant ""]
  tools := [.plain "clock" "The time."]

/-- What the bodies of that request tell, in each vendor's way. -/
theorem bodies_faithful_busy :
    busyRequest.rejected? = none ∧
    (∃ turns, OpenAI.reading.turns? (OpenAI.Body.ofRequest busyRequest "m" 9 true).toJson =
        some turns ∧
      turns.flatten = [.text "user" "list",
        .call "assistant" (some "a") "shell" (.str "\x7b\x22cmd\x22:\x22ls\x22\x7d"),
        .call "assistant" (some "b") "clock" (.str "\x7b\x7d"),
        .result "tool" (some "b") none "Error: no clock",
        .result "tool" (some "a") none "x y", .text "user" "and now?"]) ∧
    (∃ turns, Gemini.reading.turns? (Gemini.Body.ofRequest busyRequest 9).toJson = some turns ∧
      turns.flatten = [.text "user" "list",
        .call "model" (some "a") "shell" (.obj [("cmd", .str "ls")]),
        .call "model" (some "b") "clock" .empty,
        .result "user" (some "b") (some true) "no clock",
        .result "user" (some "a") (some false) "x y", .text "user" "and now?"]) ∧
    Anthropic.reading.system? (Anthropic.Body.ofRequest busyRequest "m" 9 true).toJson =
      some "be brief\n\nuse tools" := by
  have haccepted : busyRequest.rejected? = none := by decide
  obtain ⟨hanthropic, hopenAI, hgemini⟩ := bodies_faithful busyRequest haccepted "m" 9 true
  refine ⟨haccepted, ?_, ?_, ?_⟩
  · obtain ⟨turns, hread, -, hitems⟩ := hopenAI.items
    exact ⟨turns, hread, hitems.trans (by decide +kernel)⟩
  · obtain ⟨turns, hread, -, hitems⟩ := hgemini.items
    exact ⟨turns, hread, hitems.trans (by decide +kernel)⟩
  · exact hanthropic.system.trans (by decide +kernel)

end Turnstile
