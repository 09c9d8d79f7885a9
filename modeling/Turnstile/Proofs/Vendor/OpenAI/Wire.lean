import Turnstile.Proofs.Json.Record
import Turnstile.Proofs.Json.Text
import Turnstile.Proofs.Text.Utf8
import Turnstile.Proofs.Tool.Arguments
import Turnstile.Proofs.Vendor.OpenAI.Agreement
import Turnstile.Vendor.OpenAI.Outgoing
/-!
# OpenAI — a call there and back

The input of a call travels as JSON text inside a JSON string. A value of
integers that nests no deeper than the reader goes is what its text stands
for (`inputOf_compact`), and the string comes out of an entry as it went in
(`Call.undoes_toJson`), so a call that was encoded and is sent back is the
same call (`survives`): in a response read whole, whatever else it holds,
and in a stream, however the text is cut.
-/

namespace Turnstile

/-- **The text of a value stands for the value**, unless that is `null`. -/
theorem inputOf_compact {j : Json} (hnull : j.isNull = false) (hint : j.integral = true)
    (hord : j.ordered = true) (hdepth : j.depth < Doc.nestingLimit) :
    inputOf j.compact = j := by
  have hread : Json.ofString? j.compact = some j := Json.ofString?_compact hint hord hdepth
  rw [inputOf, hread]
  show (if j.isNull then Json.empty else j) = j
  rw [hnull]
  rfl

namespace OpenAI

open Reader

/-! ## Entries -/

namespace Call

/-- The entry of a call. -/
def toJson (w : Call) : Json :=
  .ofFields [("id", .str w.id), ("type", .str "function"),
    ("function", .ofFields [("name", .str w.name), ("arguments", .str w.arguments)])]

/-- A call as it is sent. -/
def ofToolCall (c : ToolCall) : Call := ⟨c.id, c.name, c.input.compact⟩

variable {w : Call}

theorem integral_toJson : w.toJson.integral = true := by
  refine Json.integral_ofFields ?_
  have hfunction : (Json.ofFields
      [("name", .str w.name), ("arguments", .str w.arguments)]).integral = true :=
    Json.integral_ofFields (by simp)
  simp [hfunction]

theorem undoes_function (name arguments : String) :
    Undoes function (fun p => .ofFields [("name", .str p.1), ("arguments", .str p.2)])
      (name, arguments) := by
  intro source hfits
  obtain ⟨fs, hfs, hfound⟩ := exists_found "struct FunctionCall" ["name", "arguments"] hfits
  have hname : fs.require "name" string = .ok name :=
    hfound.require (by simp) (undoes_string name) (by simp)
  have harguments : fs.getD "arguments" string "" = .ok arguments :=
    hfound.getD (by simp) (undoes_string arguments) "" (by simp)
  rw [function, hfs, ok_bind, hname, harguments]
  rfl

/-- **An entry is read as it was written.** -/
theorem undoes_toJson (w : Call) : Undoes call toJson w := by
  intro source hfits
  obtain ⟨fs, hfs, hfound⟩ := exists_found "struct Call" ["id", "type", "function"] hfits
  have hid : fs.require "id" string = .ok w.id :=
    hfound.require (by simp) (undoes_string w.id) (by simp)
  have htype : fs.getD "type" string "function" = .ok "function" :=
    hfound.getD (by simp) (undoes_string "function") "function" (by simp)
  have hfunction : fs.require "function" function = .ok (w.name, w.arguments) :=
    hfound.require (by simp) (undoes_function w.name w.arguments) (by simp)
  rw [call, toJson, hfs, ok_bind, hid, htype, hfunction]
  rfl

end Call

/-! ## Responses -/

/-- A token count. -/
def usageJson (u : Usage) : Json :=
  .ofFields [("prompt_tokens", .nat u.input), ("completion_tokens", .nat u.output)]

/-- What a response of one choice holds besides calls: its text, its usage,
and fields of the message, the choice and the body that are not read. -/
structure Reply where
  content : Option String
  usage : Option Usage
  inMessage : List (String × Json)
  inChoice : List (String × Json)
  inBody : List (String × Json)

namespace Reply

variable (r : Reply) (entries : List Json)

/-- The message, with the entries of some calls. -/
def messageJson : Json :=
  .ofFields (r.inMessage ++
    [("content", (r.content.map .str).getD .null), ("tool_calls", .arr entries)])

/-- The one choice. -/
def choiceJson : Json := .ofFields (r.inChoice ++ [("message", r.messageJson entries)])

/-- The response. -/
def toJson : Json :=
  .ofFields (r.inBody ++
    [("choices", .arr [r.choiceJson entries]), ("usage", (r.usage.map usageJson).getD .null)])

/-- Counts are of 64 bits, and the numbers in the other fields integers. -/
structure Sound : Prop where
  usage : ∀ u ∈ r.usage, u.input < Nat.pow 2 64 ∧ u.output < Nat.pow 2 64
  fields : ∀ p ∈ r.inMessage ++ r.inChoice ++ r.inBody, p.2.integral = true

variable {r : Reply} (calls : List Call)

theorem undoes_message : Undoes answer (fun a => r.messageJson (a.calls.map Call.toJson))
    ⟨r.content, calls⟩ := by
  intro source hfits
  obtain ⟨fs, hfs, hfound⟩ := exists_found "struct Answer" ["content", "tool_calls"] hfits
  have hcontent : fs.get? "content" string = .ok r.content :=
    hfound.get? (by simp) (fun _ => rfl) (fun s _ => undoes_string s) (by simp)
  have hcalls : fs.getD "tool_calls" (list call) [] = .ok calls :=
    hfound.getD (by simp) (Undoes.list fun w _ => Call.undoes_toJson w) [] (by simp)
  show answer source (.ofJson (r.messageJson (calls.map Call.toJson))) = _
  rw [answer, messageJson, hfs, ok_bind, hcontent, hcalls]
  rfl

theorem undoes_choice : Undoes choice (fun a => r.choiceJson (a.calls.map Call.toJson))
    ⟨r.content, calls⟩ := by
  intro source hfits
  obtain ⟨fs, hfs, hfound⟩ := exists_found "struct Choice" ["message"] hfits
  have hmessage : fs.require "message" answer = .ok ⟨r.content, calls⟩ :=
    hfound.require (by simp) (undoes_message calls) (by simp)
  show choice source (.ofJson (r.choiceJson (calls.map Call.toJson))) = _
  rw [choice, choiceJson, hfs]
  exact hmessage

theorem undoes_usage {u : Usage} (h : u.input < Nat.pow 2 64 ∧ u.output < Nat.pow 2 64) :
    Undoes OpenAI.usage usageJson u := by
  intro source hfits
  obtain ⟨fs, hfs, hfound⟩ :=
    exists_found "struct Usage" ["prompt_tokens", "completion_tokens"] hfits
  have hinput : fs.getD "prompt_tokens" nat64 0 = .ok u.input :=
    hfound.getD (by simp) (undoes_natBelow "u64" h.1) 0 (by simp)
  have houtput : fs.getD "completion_tokens" nat64 0 = .ok u.output :=
    hfound.getD (by simp) (undoes_natBelow "u64" h.2) 0 (by simp)
  rw [OpenAI.usage, usageJson, hfs, ok_bind, hinput, houtput]
  rfl

/-- **A response is read as it was written**, whatever else it holds. -/
theorem undoes_toJson (h : r.Sound) : Undoes completion
    (fun _ => r.toJson (calls.map Call.toJson)) ⟨[⟨r.content, calls⟩], r.usage⟩ := by
  intro source hfits
  obtain ⟨fs, hfs, hfound⟩ := exists_found "struct Completion" ["choices", "usage"] hfits
  have hlist : Undoes (list choice)
      (fun as => .arr (as.map fun a => r.choiceJson (a.calls.map Call.toJson)))
      [⟨r.content, calls⟩] :=
    Undoes.list (List.forall_mem_singleton.mpr (undoes_choice calls))
  have hchoices : fs.getD "choices" (list choice) [] = .ok [⟨r.content, calls⟩] :=
    hfound.getD (by simp) hlist [] (by simp)
  have husage : fs.get? "usage" OpenAI.usage = .ok r.usage :=
    hfound.get? (by simp) (fun _ => rfl) (fun u hu => undoes_usage (h.usage u hu)) (by simp)
  show completion source (.ofJson (r.toJson (calls.map Call.toJson))) = _
  rw [completion, toJson, hfs, ok_bind, hchoices, husage]
  rfl

theorem integral_toJson (h : r.Sound) : (r.toJson (calls.map Call.toJson)).integral = true := by
  obtain ⟨hfields, hbody⟩ := List.forall_mem_append.mp h.fields
  obtain ⟨hmessage, hchoice⟩ := List.forall_mem_append.mp hfields
  have hentries : (Json.arr (calls.map Call.toJson)).integral = true :=
    Json.integral_arr_map fun w _ => Call.integral_toJson
  have hcontent : ((r.content.map Json.str).getD .null).integral = true := by
    cases r.content <;> rfl
  have husage : ((r.usage.map usageJson).getD .null).integral = true := by
    cases hu : r.usage with
    | none => rfl
    | some u =>
      obtain ⟨hinput, houtput⟩ := h.usage u hu
      exact Json.integral_ofFields
        (by simp [Json.integral_nat hinput, Json.integral_nat houtput])
  have hmessageJson : (r.messageJson (calls.map Call.toJson)).integral = true :=
    Json.integral_ofFields (List.forall_mem_append.mpr ⟨hmessage, by simp [hcontent, hentries]⟩)
  have hchoiceJson : (r.choiceJson (calls.map Call.toJson)).integral = true :=
    Json.integral_ofFields (List.forall_mem_append.mpr ⟨hchoice, by simp [hmessageJson]⟩)
  exact Json.integral_ofFields (List.forall_mem_append.mpr
    ⟨hbody, by simp [Json.integral_singleton hchoiceJson, husage]⟩)

/-- **The text of a response is decoded to what it holds.** -/
theorem decodeFull_compact (h : r.Sound)
    (hdepth : (r.toJson (calls.map Call.toJson)).depth < Doc.nestingLimit) :
    decodeFull (Utf8.encode (r.toJson (calls.map Call.toJson)).compact) =
      .ok (Progress.tokens r.content ++ calls.map (fun w => .toolCall w.toToolCall) ++
        [.done (r.usage.getD .zero)]) := by
  have hle : (r.toJson (calls.map Call.toJson)).depth ≤ Doc.nestingLimit - 1 :=
    Nat.le_pred_of_lt hdepth
  have hread : completion .text (.ofJson (r.toJson (calls.map Call.toJson))) =
      .ok ⟨[⟨r.content, calls⟩], r.usage⟩ :=
    undoes_toJson calls h .text (Doc.fits_some hle)
  have hbody : Completion.ofBytes? (Utf8.encode (r.toJson (calls.map Call.toJson)).compact) =
      some ⟨[⟨r.content, calls⟩], r.usage⟩ := by
    rw [Completion.ofBytes?, Doc.ofBytes?_encode,
      Doc.ofString?_compact (integral_toJson calls h), Option.bind_some, hread]
    rfl
  rw [decodeFull, hbody]
  rfl

end Reply

/-! ## Any response -/

/-- The entries in the message of the first choice of a response. -/
def entriesOf? (doc : Doc) : Option (List Doc) :=
  match doc.field? "choices" with
  | some (.arr (choice :: _)) =>
    match (choice.field? "message").bind (Doc.field? "tool_calls") with
    | some (.arr items) => some items
    | _ => none
  | _ => none

theorem Call.depth_toJson_le (w : Call) : w.toJson.depth ≤ 2 := by
  have hfunction : (Json.ofFields
      [("name", .str w.name), ("arguments", .str w.arguments)]).depth ≤ 1 :=
    Json.depth_ofFields_le (by simp)
  exact Json.depth_ofFields_le (by simp [hfunction])

theorem exists_of_decodeFull {body : Bytes} {doc : Doc} {events : List ChatEvent}
    (hdoc : Doc.ofBytes? body = some doc) (h : decodeFull body = .ok events) :
    ∃ told, completion .text doc = .ok told ∧ told.events = events := by
  rw [decodeFull, Completion.ofBytes?, hdoc, Option.bind_some] at h
  cases htold : completion .text doc with
  | error e =>
    rw [htold] at h
    cases h
  | ok told =>
    rw [htold] at h
    exact ⟨told, rfl, Except.ok.inj h⟩

/-- Of a response the first choice is read, two levels in. -/
theorem choice_of_completion {source : Source} {doc choiceDoc : Doc} {more : List Doc}
    {told : Completion} (h : completion source doc = .ok told)
    (hchoices : doc.field? "choices" = some (.arr (choiceDoc :: more))) :
    ∃ within a rest, choice within choiceDoc = .ok a ∧ told.choices = a :: rest ∧
      ∀ n, Doc.Fits source.limit (n + 2) → Doc.Fits within.limit n := by
  obtain ⟨fs, hfs, h⟩ := Except.exists_of_bind h
  obtain ⟨choices, hread, h⟩ := Except.exists_of_bind h
  obtain ⟨usage, -, h⟩ := Except.exists_of_bind h
  cases h
  rw [Fields.getD, find?_of_record hfs (by simp) hchoices] at hread
  obtain ⟨within, hinside, hall⟩ := forall₂_of_list hread
  obtain ⟨a, rest, hchoice, -, rfl⟩ := List.forall₂_cons_left_iff.mp hall
  exact ⟨within, a, rest, hchoice, rfl,
    fun n hfits => Source.fits_inside hinside (Source.fits_inside (inside_of_record hfs) hfits)⟩

/-- Of a choice its message is, one level in. -/
theorem answer_of_choice {source : Source} {doc messageDoc : Doc} {a : Answer}
    (h : choice source doc = .ok a) (hmessage : doc.field? "message" = some messageDoc) :
    ∃ within, source.inside = .ok within ∧ answer within messageDoc = .ok a := by
  obtain ⟨fs, hfs, h⟩ := Except.exists_of_bind h
  rw [Fields.require, find?_of_record hfs (by simp) hmessage] at h
  exact ⟨fs.source, inside_of_record hfs, h⟩

/-- Of a message its entries are, two levels in and in their places. -/
theorem forall₂_of_answer {source : Source} {doc : Doc} {items : List Doc} {a : Answer}
    (h : answer source doc = .ok a) (hitems : doc.field? "tool_calls" = some (.arr items)) :
    ∃ within, List.Forall₂ (fun item w => call within item = .ok w) items a.calls ∧
      ∀ n, Doc.Fits source.limit (n + 2) → Doc.Fits within.limit n := by
  obtain ⟨fs, hfs, h⟩ := Except.exists_of_bind h
  obtain ⟨content, -, h⟩ := Except.exists_of_bind h
  obtain ⟨calls, hread, h⟩ := Except.exists_of_bind h
  cases h
  rw [Fields.getD, find?_of_record hfs (by simp) hitems] at hread
  obtain ⟨within, hinside, hall⟩ := forall₂_of_list hread
  exact ⟨within, hall,
    fun n hfits => Source.fits_inside hinside (Source.fits_inside (inside_of_record hfs) hfits)⟩

/-- **An entry in a response that was decoded** is told as the call it is
the entry of, in its place among the calls. -/
theorem exists_of_entriesOf? {body : Bytes} {doc : Doc} {items : List Doc} {i : Nat} {w : Call}
    {events : List ChatEvent} (hdoc : Doc.ofBytes? body = some doc)
    (hitems : entriesOf? doc = some items) (hi : items[i]? = some (.ofJson w.toJson))
    (hevents : decodeFull body = .ok events) :
    ∃ (content : Option String) (calls : List Call) (usage : Usage),
      events = Progress.tokens content ++ calls.map (fun w => .toolCall w.toToolCall) ++
        [.done usage] ∧ calls.length = items.length ∧ calls[i]? = some w := by
  obtain ⟨⟨choices, usage⟩, htold, rfl⟩ := exists_of_decodeFull hdoc hevents
  -- down to the list of entries, along the fields that lead to it
  unfold entriesOf? at hitems
  split at hitems
  case h_2 => cases hitems
  rename_i choiceDoc more hchoicesDoc
  split at hitems
  case h_2 => cases hitems
  rename_i entries hentries
  cases hitems
  obtain ⟨messageDoc, hmessageDoc, hcallsDoc⟩ := Option.bind_eq_some_iff.mp hentries
  obtain ⟨inChoices, a, rest, hchoice, rfl, hroom⟩ := choice_of_completion htold hchoicesDoc
  obtain ⟨inChoice, hinside, hmessage⟩ := answer_of_choice hchoice hmessageDoc
  obtain ⟨inCalls, hall, hentry⟩ := forall₂_of_answer hmessage hcallsDoc
  -- there is room for the entry so far in
  have hfits : Doc.Fits inCalls.limit 2 :=
    hentry 2 (Source.fits_inside hinside (hroom 5 (Doc.fits_some (by decide))))
  refine ⟨a.content, a.calls, usage.getD .zero, rfl, hall.length_eq.symm, ?_⟩
  obtain ⟨hlt, hitem⟩ := List.getElem?_eq_some_iff.mp hi
  have hlt' : i < a.calls.length := hall.length_eq ▸ hlt
  have hcall : call inCalls items[i] = .ok a.calls[i] := hall.get hlt hlt'
  rw [hitem, w.undoes_toJson inCalls (hfits.mono w.depth_toJson_le)] at hcall
  rw [List.getElem?_eq_getElem hlt', Except.ok.inj hcall]

end OpenAI

end Turnstile
