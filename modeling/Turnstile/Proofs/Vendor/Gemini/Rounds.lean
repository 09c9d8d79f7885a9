import Turnstile.Proofs.Vendor.Gemini.Body
import Turnstile.Proofs.Vendor.Gemini.Numbering
import Mathlib.Data.List.Nodup
/-!
# Gemini — answers find their calls

A stream's calls are numbered from nought, so the ids that stand in are
the same ones in every turn, and an answer goes out under a name that is
found by such an id. It is the right name: within a turn no id stands in
twice (`nodup_ids_calls`), and what a turn's calls add to the names known
comes before what earlier turns did (`said_messages`), while messages
that carry neither calls nor results change nothing in between
(`said_of_plain`).
-/

namespace Turnstile

/-- Nothing but a text, if that: the message carries no call and no
result. -/
structure ChatMessage.Plain (m : ChatMessage) : Prop where
  toolCalls : m.toolCalls = []
  toolResults : m.toolResults = []

namespace Gemini

open Json (itemsAt?)

/-! ## Calls and answers in a body -/

/-- What is under a key in the parts of a body that have it, in order. -/
def underKey (key : String) (body : Json) : List Json :=
  (((itemsAt? "contents" body).getD []).flatMap fun turn =>
    (itemsAt? "parts" turn).getD []).filterMap (·.get? key)

/-- The same of the parts the pass writes for some messages. -/
def said (key : String) (names : Names) (ms : List ChatMessage) : List Json :=
  ((turnsFrom names ms).flatMap (·.parts)).filterMap fun part => part.toJson.get? key

theorem underKey_toJson (key : String) (r : ChatRequest) (maxTokens : Nat) :
    underKey key (Body.ofRequest r maxTokens).toJson = said key (fun _ => none) r.messages := by
  rw [underKey, itemsAt?, Body.get?_contents, turns_ofRequest, said]
  simp only [Option.getD_some]
  induction turnsFrom (fun _ => none) r.messages with
  | nil => rfl
  | cons turn rest ih =>
    have hparts : (itemsAt? "parts" turn.toJson).getD [] = turn.parts.map Part.toJson := by
      simp [Turn.toJson, itemsAt?]
    rw [List.map_cons, List.flatMap_cons, List.flatMap_cons, List.filterMap_append,
      List.filterMap_append, ih, hparts, List.filterMap_map]
    rfl

theorem said_append (key : String) (names : Names) (ms more : List ChatMessage) :
    said key names (ms ++ more) = said key names ms ++ said key (names.afterAll ms) more := by
  rw [said, turnsFrom_append, List.flatMap_append, List.filterMap_append]
  rfl

/-- What a message of the conversation says under a key. -/
theorem said_singleton (key : String) (names : Names) {m : ChatMessage}
    (hrole : m.role ≠ .system) :
    said key names [m] =
      m.items.filterMap fun item => (Part.ofItem names item).toJson.get? key := by
  rw [said, turnsFrom]
  by_cases hnil : m.items = []
  · simp [hnil, turnsFrom]
  · simp [hrole, hnil, turnsFrom, Turn.ofMessage, List.filterMap_map]

/-- A call as it is sent, without an id if that one stood in. -/
def callObject (c : ToolCall) : Json :=
  .ofFields (Part.idField (vendorId? c.id) ++ [("name", .str c.name), ("args", c.input)])

/-- An answer as it is sent, under a name. -/
def answerObject (name : String) (result : ToolResult) : Json :=
  .ofFields (Part.idField (vendorId? result.callId) ++ [("name", .str name),
    ("response", .ofFields [(if result.isError then "error" else "output",
      .str result.content)])])

theorem said_functionCall (names : Names) {m : ChatMessage} (hrole : m.role ≠ .system) :
    said "functionCall" names [m] = m.toolCalls.map callObject := by
  rw [said_singleton _ _ hrole, ChatMessage.items, List.filterMap_append, List.filterMap_append,
    List.filterMap_map, List.filterMap_map]
  by_cases htext : m.content = "" <;>
    simp [htext, Function.comp_def, Part.ofItem, Part.toJson, callObject]

theorem said_functionResponse (names : Names) {m : ChatMessage} (hrole : m.role ≠ .system) :
    said "functionResponse" names [m] =
      m.toolResults.map fun result =>
        answerObject ((names result.callId).getD result.callId) result := by
  rw [said_singleton _ _ hrole, ChatMessage.items, List.filterMap_append, List.filterMap_append,
    List.filterMap_map, List.filterMap_map]
  by_cases htext : m.content = "" <;>
    simp [htext, Function.comp_def, Part.ofItem, Part.toJson, answerObject]

/-- **Messages of text alone** tell no names. -/
theorem afterAll_of_plain (names : Names) {ms : List ChatMessage} (h : ∀ m ∈ ms, m.Plain) :
    names.afterAll ms = names := by
  induction ms with
  | nil => rfl
  | cons m rest ih =>
    obtain ⟨hm, hrest⟩ := List.forall_mem_cons.mp h
    rw [Names.afterAll, List.foldl_cons, Names.after_of_toolCalls hm.toolCalls]
    exact ih hrest

/-- And they hold neither calls nor answers. -/
theorem said_of_plain {key : String} (hkey : key ≠ "text") (names : Names)
    {ms : List ChatMessage} (h : ∀ m ∈ ms, m.Plain) : said key names ms = [] := by
  induction ms with
  | nil => rfl
  | cons m rest ih =>
    obtain ⟨hm, hrest⟩ := List.forall_mem_cons.mp h
    have hone : said key names [m] = [] := by
      by_cases hrole : m.role = .system
      · simp [said, turnsFrom, hrole]
      · rw [said_singleton _ _ hrole, ChatMessage.items, hm.toolCalls, hm.toolResults]
        by_cases htext : m.content = "" <;>
          simp [htext, Part.ofItem, Part.toJson, hkey.symm]
    have hnames : names.afterAll [m] = names :=
      afterAll_of_plain names fun _ h => List.mem_singleton.mp h ▸ hm
    rw [← List.singleton_append, said_append, hone, hnames, ih hrest]
    rfl

/-! ## Rounds -/

/-- An answer to a call. -/
structure Answer where
  call : ToolCall
  content : String
  isError : Bool

namespace Answer

/-- The result that answers the call by its id. -/
def result (a : Answer) : ToolResult := ⟨a.call.id, a.content, a.isError⟩

end Answer

/-- A turn of the model that asks for calls, and the turn that answers
them, with other messages before and between. -/
structure Round where
  before : List ChatMessage
  content : String
  /-- The stream the calls come from. -/
  lines : List String
  between : List ChatMessage
  remark : String
  answers : List Answer

namespace Round

variable {round : Round}

/-- The calls a fresh normalizer makes of the stream. -/
def calls (round : Round) : List ToolCall :=
  (normalizer.run round.lines).filterMap ChatEvent.call?

/-- The message that holds the calls. -/
def asking (round : Round) : ChatMessage := .withToolCalls round.content round.calls

/-- The message that holds the answers. -/
def answering (round : Round) : ChatMessage :=
  { ChatMessage.answering (round.answers.map Answer.result) with content := round.remark }

/-- The messages of the round. -/
def messages (round : Round) : List ChatMessage :=
  round.before ++ ([round.asking] ++ (round.between ++ [round.answering]))

/-- The vendor names none of the calls, the answers are answers to calls
of the round, and the other messages carry nothing but text. -/
structure Proper (round : Round) : Prop where
  before : ∀ m ∈ round.before, m.Plain
  between : ∀ m ∈ round.between, m.Plain
  unnamed : ∀ c ∈ taken (round.lines.filterMap lineResponse?), c.isAnonymous = true
  answers : ∀ a ∈ round.answers, a.call ∈ round.calls

/-- The calls are those of the stream, numbered from nought. -/
theorem calls_eq (round : Round) :
    round.calls = sentFrom 0 (taken (round.lines.filterMap lineResponse?)) :=
  calls_run round.lines

/-- **No id stands in twice** in a round. -/
theorem nodup_ids_calls (h : round.Proper) : (round.calls.map (·.id)).Nodup := by
  have hnumbered := numbered_sentFrom (taken (round.lines.filterMap lineResponse?))
  rw [← calls_eq] at hnumbered
  have hall : ((taken (round.lines.filterMap lineResponse?)).zip round.calls).filter
      (·.1.isAnonymous) = (taken (round.lines.filterMap lineResponse?)).zip round.calls :=
    List.filter_eq_self.mpr fun x hx => h.unnamed x.1 (List.of_mem_zip hx).1
  have hids : ((taken (round.lines.filterMap lineResponse?)).zip round.calls).map (·.2.id) =
      round.calls.map (·.id) := by
    have hsnd := List.map_snd_zip (Nat.le_of_eq hnumbered.length)
    rw [← hsnd, List.map_map, hsnd]
    rfl
  have hdistinct := hnumbered.distinct
  rwa [hall, hids] at hdistinct

/-- **Every id stands in**, so none is sent. -/
theorem vendorId?_of_mem_calls (h : round.Proper) {c : ToolCall} (hc : c ∈ round.calls) :
    vendorId? c.id = none := by
  rw [calls_eq, sentFrom] at hc
  obtain ⟨asked, hasked, rfl⟩ := List.mem_map.mp hc
  have hunnamed := h.unnamed asked.1 (List.fst_mem_of_mem_zipIdx hasked)
  rw [FunctionCall.sentAs_id, if_pos hunnamed, vendorId?, if_pos (startsWith_append ..)]

/-- Once the calls were said, the name that goes with the id of one is
its own, whatever was known before. -/
theorem name_of_mem_calls (h : round.Proper) (names : Names) {c : ToolCall}
    (hc : c ∈ round.calls) : names.after round.asking c.id = some c.name := by
  -- the first call with the id is the only one
  have hfind : round.calls.find? (·.id == c.id) = some c := by
    cases hother : round.calls.find? (·.id == c.id) with
    | none =>
      have hnot := List.find?_eq_none.mp hother c hc
      simp at hnot
    | some other =>
      have hid : other.id = c.id := by simpa using List.find?_some hother
      have hmem : other ∈ round.calls := List.mem_of_find?_eq_some hother
      exact congrArg some (List.inj_on_of_nodup_map (nodup_ids_calls h) hmem hc hid)
  rw [Names.after, asking, ChatMessage.withToolCalls, hfind]
  rfl

/-- The calls of a round and its answers, as they are sent. -/
def callObjects (round : Round) : List Json :=
  round.calls.map fun c => .ofFields [("name", .str c.name), ("args", c.input)]

/-- Each answer is sent under the name of the call it answers. -/
def answerObjects (round : Round) : List Json :=
  round.answers.map fun a =>
    .ofFields [("name", .str a.call.name),
      ("response", .ofFields [(if a.isError then "error" else "output", .str a.content)])]

/-- What a round says is what is said by the two turns it is about. -/
theorem said_messages {key : String} (hkey : key ≠ "text") (h : round.Proper) (names : Names) :
    said key names round.messages =
      said key names [round.asking] ++ said key (names.after round.asking) [round.answering] := by
  have hasking : names.afterAll [round.asking] = names.after round.asking := rfl
  rw [messages, said_append, said_of_plain hkey _ h.before, afterAll_of_plain _ h.before,
    List.nil_append, said_append, hasking, said_append, said_of_plain hkey _ h.between,
    afterAll_of_plain _ h.between, List.nil_append]

/-- **The calls of a round are sent without ids**, in order. -/
theorem said_functionCall_messages (h : round.Proper) (names : Names) :
    said "functionCall" names round.messages = round.callObjects := by
  have hasking : round.asking.role ≠ .system := by simp [asking, ChatMessage.withToolCalls]
  have hanswering : round.answering.role ≠ .system := by
    simp [answering, ChatMessage.answering]
  rw [said_messages (by decide) h, said_functionCall _ hasking,
    said_functionCall _ hanswering]
  have hnone : round.answering.toolCalls = [] := rfl
  rw [hnone, List.map_nil, List.append_nil, callObjects]
  refine List.map_congr_left fun c hc => ?_
  rw [callObject, vendorId?_of_mem_calls h hc]
  rfl

/-- **Each answer of a round has the name of the call it answers**, and no
id either. -/
theorem said_functionResponse_messages (h : round.Proper) (names : Names) :
    said "functionResponse" names round.messages = round.answerObjects := by
  have hasking : round.asking.role ≠ .system := by simp [asking, ChatMessage.withToolCalls]
  have hanswering : round.answering.role ≠ .system := by
    simp [answering, ChatMessage.answering]
  rw [said_messages (by decide) h, said_functionResponse _ hasking,
    said_functionResponse _ hanswering]
  have hnone : round.asking.toolResults = [] := rfl
  have hresults : round.answering.toolResults = round.answers.map Answer.result := rfl
  rw [hnone, List.map_nil, List.nil_append, hresults, List.map_map, answerObjects]
  refine List.map_congr_left fun a ha => ?_
  have hcall : a.call ∈ round.calls := h.answers a ha
  have hid : a.result.callId = a.call.id := rfl
  rw [Function.comp_apply, answerObject, hid, vendorId?_of_mem_calls h hcall,
    name_of_mem_calls h names hcall]
  rfl

end Round

/-- **Round after round**: whatever names earlier rounds left known. -/
theorem said_rounds {key : String} {objects : Round → List Json}
    (hround : ∀ round : Round, round.Proper → ∀ names,
      said key names round.messages = objects round)
    {rounds : List Round} (h : ∀ round ∈ rounds, round.Proper) (names : Names) :
    said key names (rounds.flatMap Round.messages) = rounds.flatMap objects := by
  induction rounds generalizing names with
  | nil => rfl
  | cons round rest ih =>
    obtain ⟨hfirst, hrest⟩ := List.forall_mem_cons.mp h
    rw [List.flatMap_cons, said_append, hround round hfirst, ih hrest, List.flatMap_cons]

/-- The contents of a body do not depend on the system's messages, as long
as none asks for a call. -/
theorem contents_eq_of_conversation {r r' : ChatRequest}
    (hsame : r'.conversation = r.conversation)
    (h : ∀ m ∈ r.messages, m.role = .system → m.toolCalls = [])
    (h' : ∀ m ∈ r'.messages, m.role = .system → m.toolCalls = []) (maxTokens : Nat) :
    (Body.ofRequest r' maxTokens).toJson.get? "contents" =
      (Body.ofRequest r maxTokens).toJson.get? "contents" := by
  rw [Body.get?_contents, Body.get?_contents, turns_ofRequest, turns_ofRequest,
    ← turnsFrom_conversation _ h, ← turnsFrom_conversation _ h']
  rw [ChatRequest.conversation, ChatRequest.conversation] at hsame
  rw [hsame]

/-- In a conversation of rounds only the asking turns ask for calls, and
they are not the system's. -/
theorem toolCalls_of_rounds {rounds : List Round} (h : ∀ round ∈ rounds, round.Proper)
    {after : List ChatMessage} (hafter : ∀ m ∈ after, m.Plain) :
    ∀ m ∈ rounds.flatMap Round.messages ++ after, m.role = .system → m.toolCalls = [] := by
  intro m hm hrole
  rcases List.mem_append.mp hm with hm | hm
  · obtain ⟨round, hround, hm⟩ := List.mem_flatMap.mp hm
    have hproper := h round hround
    simp only [Round.messages, List.mem_append, List.mem_singleton] at hm
    rcases hm with hm | rfl | hm | rfl
    · exact (hproper.before m hm).toolCalls
    · cases hrole
    · exact (hproper.between m hm).toolCalls
    · cases hrole
  · exact (hafter m hm).toolCalls

/-- **Answers find their calls.** In a conversation of any number of
rounds, each with calls that a normalizer of its own numbered from nought,
every answer is sent under the name of the call it answers; neither calls
nor answers are sent with an id; and with other system messages in other
places the contents are the same. -/
theorem answers_find_calls (r : ChatRequest) (maxTokens : Nat) (rounds : List Round)
    (after : List ChatMessage) (h : ∀ round ∈ rounds, round.Proper)
    (hafter : ∀ m ∈ after, m.Plain)
    (hmessages : r.messages = rounds.flatMap Round.messages ++ after) :
    let body := (Body.ofRequest r maxTokens).toJson
    underKey "functionCall" body = rounds.flatMap Round.callObjects ∧
    underKey "functionResponse" body = rounds.flatMap Round.answerObjects ∧
    (∀ object ∈ underKey "functionCall" body ++ underKey "functionResponse" body,
      object.get? "id" = none) ∧
    ∀ r' : ChatRequest, r'.conversation = r.conversation →
      (∀ m ∈ r'.messages, m.role = .system → m.toolCalls = []) →
      (Body.ofRequest r' maxTokens).toJson.get? "contents" = body.get? "contents" := by
  intro body
  have hcalls : underKey "functionCall" body = rounds.flatMap Round.callObjects := by
    rw [underKey_toJson, hmessages, said_append,
      said_rounds (fun _ hround => Round.said_functionCall_messages hround) h,
      said_of_plain (by decide) _ hafter, List.append_nil]
  have hanswers : underKey "functionResponse" body = rounds.flatMap Round.answerObjects := by
    rw [underKey_toJson, hmessages, said_append,
      said_rounds (fun _ hround => Round.said_functionResponse_messages hround) h,
      said_of_plain (by decide) _ hafter, List.append_nil]
  refine ⟨hcalls, hanswers, fun object hobject => ?_, fun r' hsame hsystem => ?_⟩
  · rw [hcalls, hanswers] at hobject
    rcases List.mem_append.mp hobject with hobject | hobject
    · obtain ⟨round, -, hmem⟩ := List.mem_flatMap.mp hobject
      obtain ⟨c, -, rfl⟩ := List.mem_map.mp hmem
      simp
    · obtain ⟨round, -, hmem⟩ := List.mem_flatMap.mp hobject
      obtain ⟨a, -, rfl⟩ := List.mem_map.mp hmem
      simp
  · refine contents_eq_of_conversation hsame ?_ hsystem maxTokens
    rw [hmessages]
    exact toolCalls_of_rounds h hafter

/-- A round with one call, `look`. -/
def firstRound : Round where
  before := [.plain .user "go"]
  content := ""
  lines := ["data: " ++ ("\x7b\"candidates\":[\x7b\"content\":\x7b\"parts\":[" ++
    "\x7b\"functionCall\":\x7b\"name\":\"look\"\x7d\x7d]\x7d\x7d]\x7d")]
  between := [.plain .system "be quick"]
  remark := ""
  answers := [⟨⟨"gemini_call_0", "look", .empty⟩, "a wall", false⟩]

/-- A round with two calls, `push` and then `wait`, answered the other way
round. -/
def secondRound : Round where
  before := []
  content := "Now."
  lines := ["data: " ++ ("\x7b\"candidates\":[\x7b\"content\":\x7b\"parts\":[" ++
    "\x7b\"functionCall\":\x7b\"name\":\"push\"\x7d\x7d," ++
    "\x7b\"functionCall\":\x7b\"name\":\"wait\"\x7d\x7d]\x7d\x7d]\x7d")]
  between := []
  remark := "Well?"
  answers := [⟨⟨"gemini_call_1", "wait", .empty⟩, "bored", true⟩,
    ⟨⟨"gemini_call_0", "push", .empty⟩, "stuck", false⟩]

theorem responses_firstRound : firstRound.lines.filterMap lineResponse? =
    [⟨[⟨0, some [.call ⟨none, "look", .null⟩]⟩], none, none⟩] := by
  rw [firstRound, List.filterMap_cons, lineResponse?_append]
  decide +kernel

theorem responses_secondRound : secondRound.lines.filterMap lineResponse? =
    [⟨[⟨0, some [.call ⟨none, "push", .null⟩, .call ⟨none, "wait", .null⟩]⟩], none, none⟩] := by
  rw [secondRound, List.filterMap_cons, lineResponse?_append]
  decide +kernel

theorem calls_firstRound : firstRound.calls = [⟨"gemini_call_0", "look", .empty⟩] := by
  rw [Round.calls_eq, responses_firstRound]
  decide +kernel

theorem calls_secondRound : secondRound.calls =
    [⟨"gemini_call_0", "push", .empty⟩, ⟨"gemini_call_1", "wait", .empty⟩] := by
  rw [Round.calls_eq, responses_secondRound]
  decide +kernel

theorem proper_firstRound : firstRound.Proper where
  before m hm := by
    rw [List.mem_singleton.mp hm]
    exact ⟨rfl, rfl⟩
  between m hm := by
    rw [List.mem_singleton.mp hm]
    exact ⟨rfl, rfl⟩
  unnamed := by
    rw [responses_firstRound]
    decide
  answers := by
    rw [calls_firstRound]
    decide

theorem proper_secondRound : secondRound.Proper where
  before m hm := by cases hm
  between m hm := by cases hm
  unnamed := by
    rw [responses_secondRound]
    decide
  answers := by
    rw [calls_secondRound]
    decide

/-- Two rounds, a word of the system's in the first. -/
def twoRounds : ChatRequest where
  model := ""
  maxTokens := 0
  temperature := none
  messages := [firstRound, secondRound].flatMap Round.messages
  tools := []

/-- The id `gemini_call_0` stands in for `look` and for `push`, and each is
answered under its name. -/
theorem answers_find_calls_twice :
    firstRound.calls.map (·.id) = ["gemini_call_0"] ∧
    secondRound.calls.map (·.id) = ["gemini_call_0", "gemini_call_1"] ∧
    (underKey "functionResponse" (Body.ofRequest twoRounds 9).toJson).map (Json.textAt? "name") =
      [some "look", some "wait", some "push"] ∧
    (Body.ofRequest twoRounds.withoutSystem 9).toJson.get? "contents" =
      (Body.ofRequest twoRounds 9).toJson.get? "contents" := by
  have hproper : ∀ round ∈ [firstRound, secondRound], round.Proper := by
    simp [proper_firstRound, proper_secondRound]
  have hmessages : twoRounds.messages = [firstRound, secondRound].flatMap Round.messages ++ [] :=
    (List.append_nil _).symm
  obtain ⟨-, hanswers, -, hsystem⟩ :=
    answers_find_calls twoRounds 9 [firstRound, secondRound] [] hproper (by simp) hmessages
  refine ⟨?_, ?_, ?_, ?_⟩
  · rw [calls_firstRound]
    rfl
  · rw [calls_secondRound]
    rfl
  · rw [hanswers]
    decide
  · refine hsystem _ twoRounds.conversation_withoutSystem fun m hm hrole => ?_
    have hnot : m.role ≠ .system := by simpa using (List.mem_filter.mp hm).2
    exact absurd hrole hnot

end Gemini

end Turnstile
