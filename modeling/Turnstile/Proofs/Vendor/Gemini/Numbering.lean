import Turnstile.Proofs.Stream.Answers
import Turnstile.Proofs.Vendor.Gemini.Responses
/-!
# Gemini — ids that stand in

The `k`-th call of a stream, counted from nought and whether or not the
vendor gave it an id, is sent with its own id or with one made of `k`
(`calls_run`). No two calls have the same number, and a number is read
back from its digits, so ids made of numbers are never the same; and they
all begin alike, which tells them from every id that does not.
-/

namespace Turnstile

namespace Gemini

open Progress

/-- The call of a part. -/
def ResponsePart.call? : ResponsePart → Option FunctionCall
  | .call c => some c
  | _ => none

/-- The calls that a stream of responses takes in: those of all responses
before the first with an error payload. -/
def taken (rs : List Response) : List FunctionCall :=
  ((rs.takeWhile (·.error.isNone)).flatMap partsOf).filterMap ResponsePart.call?

namespace FunctionCall

/-- The vendor gave the call no id. -/
def isAnonymous (c : FunctionCall) : Bool := (c.id.getD "").isEmpty

/-- The call as it is sent, being the one of this number in its stream. -/
def sentAs (c : FunctionCall) (number : Nat) : ToolCall :=
  .make (callId { start with calls := number } c.id) c.name c.args

theorem sentAs_id (c : FunctionCall) (number : Nat) :
    (c.sentAs number).id =
      if c.isAnonymous then standInLead ++ toString number else c.id.getD "" := by
  rw [sentAs, isAnonymous, ToolCall.make]
  cases c.id <;> rfl

end FunctionCall

/-! ## Numbers -/

/-- Calls as they are sent, the first having this number. -/
def sentFrom (number : Nat) (calls : List FunctionCall) : List ToolCall :=
  (calls.zipIdx number).map fun x => x.1.sentAs x.2

theorem sentFrom_append (number : Nat) (calls more : List FunctionCall) :
    sentFrom number (calls ++ more) =
      sentFrom number calls ++ sentFrom (number + calls.length) more := by
  rw [sentFrom, List.zipIdx_append, List.map_append]
  rfl

namespace Progress

/-- **The calls of parts are numbered on** from the calls seen before. -/
theorem calls_handleParts (p : Progress) (parts : List ResponsePart) :
    (p.handleParts parts).2.filterMap ChatEvent.call? =
        sentFrom p.calls (parts.filterMap ResponsePart.call?) ∧
      (p.handleParts parts).1.calls =
        p.calls + (parts.filterMap ResponsePart.call?).length := by
  induction parts generalizing p with
  | nil => exact ⟨rfl, rfl⟩
  | cons part parts ih =>
    obtain ⟨hsent, hcalls⟩ := ih (p.handlePart part).1
    rw [handleParts]
    simp only [List.filterMap_append, hsent, hcalls]
    cases part with
    | call c =>
      have hid : p.callId c.id = callId { start with calls := p.calls } c.id := by
        cases c.id <;> rfl
      have hcount : (p.handlePart (.call c)).1.calls = p.calls + 1 := rfl
      refine ⟨?_, ?_⟩
      · rw [handlePart, hid]
        rfl
      · rw [hcount, List.filterMap_cons_some (by rfl), List.length_cons]
        omega
    | text s thought =>
      refine ⟨?_, rfl⟩
      rw [handlePart]
      split <;> rfl
    | other => exact ⟨rfl, rfl⟩

end Progress

/-- The calls of a stream are numbered on as well, up to an error. -/
theorem calls_follow {p : Progress} (hp : p.finished = false) (rs : List Response) :
    (handler.follow p rs).filterMap ChatEvent.call? = sentFrom p.calls (taken rs) := by
  induction rs generalizing p with
  | nil =>
    have hclose : handler.follow p [] = [.done p.usage] := Handler.onEnd_of_open (h := handler) hp
    rw [hclose]
    rfl
  | cons r rs ih =>
    cases herror : r.error with
    | none =>
      obtain ⟨hsent, hcalls⟩ := calls_handleParts p (partsOf r)
      have hhandle : handler.handle p r = _ := handle_eq (p := p) herror
      have hopen : handler.finished (handler.handle p r).1 = false := keeps_of_error herror p hp
      have htaken : taken (r :: rs) = (partsOf r).filterMap ResponsePart.call? ++ taken rs := by
        simp only [taken, herror, Option.isNone_none, List.takeWhile_cons_of_pos,
          List.flatMap_cons, List.filterMap_append]
      rw [Handler.follow_cons (h := handler) hp, List.filterMap_append, ih hopen, hhandle, htaken,
        sentFrom_append, hsent, ← hcalls]
      rfl
    | some e =>
      have htaken : taken (r :: rs) = [] := by simp [taken, herror]
      rw [follow_of_error hp herror, htaken]
      rfl

/-- **The calls of a stream** are sent in turn, numbered from nought. -/
theorem calls_run (lines : List String) :
    (normalizer.run lines).filterMap ChatEvent.call? =
      sentFrom 0 (taken (lines.filterMap lineResponse?)) := by
  rw [run_eq_follow]
  exact calls_follow rfl _

/-! ## Ids -/

theorem toString_injective {m n : Nat} (h : toString m = toString n) : m = n := by
  have hdigits : Nat.toDigits 10 m = Nat.toDigits 10 n := by
    rw [Nat.toString_eq_ofList_toDigits, Nat.toString_eq_ofList_toDigits] at h
    exact String.ofList_injective h
  rw [← Nat.ofDigitChars_ten_toDigits (n := m), hdigits, Nat.ofDigitChars_ten_toDigits]

/-- Calls that were asked for and calls that were sent for them. -/
structure Numbered (asked : List FunctionCall) (sent : List ToolCall) : Prop where
  length : sent.length = asked.length
  /-- The vendor's ids are kept. -/
  kept : ∀ x ∈ asked.zip sent, x.1.isAnonymous = false → x.1.id = some x.2.id
  /-- No id stands in twice. -/
  distinct : (((asked.zip sent).filter (·.1.isAnonymous)).map (·.2.id)).Nodup
  /-- None is an id that begins in another way. -/
  apart : ∀ x ∈ asked.zip sent, x.1.isAnonymous = true →
    ∀ id, Text.startsWith id standInLead = false → x.2.id ≠ id

theorem zip_sentFrom (number : Nat) (calls : List FunctionCall) :
    calls.zip (sentFrom number calls) =
      (calls.zipIdx number).map fun x => (x.1, x.1.sentAs x.2) := by
  induction calls generalizing number with
  | nil => rfl
  | cons c calls ih =>
    rw [List.zipIdx_cons, List.map_cons, ← ih]
    rfl

theorem startsWith_append (lead rest : String) : Text.startsWith (lead ++ rest) lead = true := by
  rw [Text.startsWith, String.toList_append, List.isPrefixOf_iff_prefix]
  exact List.prefix_append _ _

/-- **Calls numbered in turn** keep their ids or have one of their own. -/
theorem numbered_sentFrom (calls : List FunctionCall) : Numbered calls (sentFrom 0 calls) where
  length := by rw [sentFrom, List.length_map, List.length_zipIdx]
  kept x hx hnamed := by
    rw [zip_sentFrom] at hx
    obtain ⟨y, -, rfl⟩ := List.mem_map.mp hx
    have hid : (y.1.sentAs y.2).id = y.1.id.getD "" := by
      rw [FunctionCall.sentAs_id, if_neg (by simp [hnamed])]
    rw [hid]
    cases h : y.1.id with
    | none =>
      rw [FunctionCall.isAnonymous, h] at hnamed
      cases hnamed
    | some id => rfl
  distinct := by
    -- the ids that stand in are made of numbers, and no number comes twice
    have hnumbers : ((calls.zipIdx 0).map (·.2)).Nodup := by
      rw [List.zipIdx_map_snd]
      exact List.nodup_range'
    have hids : ((calls.zip (sentFrom 0 calls)).filter (·.1.isAnonymous)).map (·.2.id) =
        ((calls.zipIdx 0).filter (·.1.isAnonymous)).map fun y => standInLead ++ toString y.2 := by
      rw [zip_sentFrom, List.filter_map, List.map_map]
      refine List.map_congr_left fun y hy => ?_
      have hanonymous : y.1.isAnonymous = true := (List.mem_filter.mp hy).2
      change (y.1.sentAs y.2).id = _
      rw [FunctionCall.sentAs_id, if_pos hanonymous]
    rw [hids]
    refine List.pairwise_map.mpr ((List.pairwise_map.mp hnumbers).filter _ |>.imp ?_)
    intro y z hne heq
    exact hne (toString_injective ((String.append_right_inj _).mp heq))
  apart x hx hanonymous id hid heq := by
    rw [zip_sentFrom] at hx
    obtain ⟨y, -, rfl⟩ := List.mem_map.mp hx
    rw [← heq, FunctionCall.sentAs_id, if_pos hanonymous, startsWith_append] at hid
    cases hid

end Gemini

end Turnstile
