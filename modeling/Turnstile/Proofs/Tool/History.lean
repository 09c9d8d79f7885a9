import Turnstile.Proofs.Json.Equality
import Turnstile.Proofs.Tool.Assembly
import Turnstile.Proofs.Tool.Arguments
import Mathlib.Data.List.DropRight
/-!
# Calls told by the history of their index

Operations on an assembly touch one index each, but for the closing of
all, which touches every one. What was done at an index, in order, is its
`history`, and it says by itself what its slot holds (`get?_after`): only
what was done since the slot was last closed counts, and of that the
argument text only since it was last started. So no operation on one index
is felt at another, and any two interleavings of the same histories return
the same calls (`toldApart`).
-/

namespace Turnstile

namespace Assembly

/-! ## Operations -/

/-- One operation on an assembly. -/
inductive Operation
  | start (index : Nat) (id name : String)
  | identify (index : Nat) (id name : Option String)
  | append (index : Nat) (fragment : String)
  | finish (index : Nat)
  | finishAll
  deriving DecidableEq, Repr

/-- What an operation leaves, and the calls it returns, each with the index
it was under. -/
def Operation.perform (a : Assembly) : Operation → Assembly × List (Nat × ToolCall)
  | .start k id name => (a.start k id name, [])
  | .identify k id name => (a.identify k id name, [])
  | .append k fragment => (a.append k fragment, [])
  | .finish k => ((a.finish k).1, (a.finish k).2.toList.map (k, ·))
  | .finishAll => (a.finishAll.1, (a.slots.map (·.1)).zip a.finishAll.2)

/-- What operations leave of an assembly without open slots, and the calls
they return on the way. -/
def run (ops : List Operation) : Assembly × List (Nat × ToolCall) :=
  ops.foldl (fun s op => ((op.perform s.1).1, s.2 ++ (op.perform s.1).2)) (empty, [])

/-- What operations leave. -/
def after (ops : List Operation) : Assembly := (run ops).1

/-- The calls that operations return for an index. -/
def callsFor (k : Nat) (ops : List Operation) : List ToolCall :=
  ((run ops).2.filter fun c => decide (c.1 = k)).map (·.2)

/-! ## Histories -/

/-- What an operation does at an index. -/
inductive Touch
  | start (id name : String)
  | identify (id name : Option String)
  | append (fragment : String)
  | close
  deriving DecidableEq, Repr

/-- What an operation does at this index, if it does anything there. -/
def Operation.at? (k : Nat) : Operation → Option Touch
  | .start index id name => if index = k then some (.start id name) else none
  | .identify index id name => if index = k then some (.identify id name) else none
  | .append index fragment => if index = k then some (.append fragment) else none
  | .finish index => if index = k then some .close else none
  | .finishAll => some .close

/-- What operations do at an index, in order. -/
def history (k : Nat) (ops : List Operation) : List Touch := ops.filterMap (·.at? k)

namespace Touch

/-- The slot is closed. -/
def closes : Touch → Bool
  | .close => true
  | _ => false

/-- The slot is started. -/
def starts : Touch → Bool
  | .start _ _ => true
  | _ => false

/-- The id and the name a start gives. -/
def given? : Touch → Option (String × String)
  | .start id name => some (id, name)
  | _ => none

/-- The id that is told, unless it is empty. -/
def id? : Touch → Option String
  | .identify id _ => id.filter (!·.isEmpty)
  | _ => none

/-- The name that is told, unless it is empty. -/
def name? : Touch → Option String
  | .identify _ name => name.filter (!·.isEmpty)
  | _ => none

/-- The argument text that is added. -/
def fragment? : Touch → Option String
  | .append fragment => some fragment
  | _ => none

end Touch

/-- What was done at an index since it was last closed. -/
def lasting (h : List Touch) : List Touch := h.rtakeWhile (!·.closes)

/-- Of that, what was done since it was last started. -/
def recent (h : List Touch) : List Touch := (lasting h).rtakeWhile (!·.starts)

/-- The id and the name its last start gave; empty ones if it was opened
without a start. -/
def given (h : List Touch) : String × String :=
  ((lasting h).filterMap Touch.given?).getLastD ("", "")

/-- The last id that was told since the slot was started, and otherwise the
one its start gave. -/
def idOf (h : List Touch) : String := ((recent h).filterMap Touch.id?).getLastD (given h).1

/-- The last name that was told, in the same way. -/
def nameOf (h : List Touch) : String := ((recent h).filterMap Touch.name?).getLastD (given h).2

/-- All argument text that was added since the slot was started. -/
def textOf (h : List Touch) : String := String.join ((recent h).filterMap Touch.fragment?)

/-- **The call a history tells of**, if anything was done since the index
was last closed. -/
def told (h : List Touch) : Option ToolCall :=
  if lasting h = [] then none else some ⟨idOf h, nameOf h, inputOf (textOf h)⟩

/-- The calls of a history, one for each closing of a slot that is open. -/
def closings (past : List Touch) : List Touch → List ToolCall
  | [] => []
  | t :: rest => (if t.closes then (told past).toList else []) ++ closings (past ++ [t]) rest

/-! ## One slot -/

/-- A slot after it was touched. -/
def Touch.leave (slot : Option CallSlot) : Touch → Option CallSlot
  | .start id name => some ⟨id, name, ""⟩
  | .identify id name => some ((slot.getD .blank).identify id name)
  | .append fragment => some ((slot.getD .blank).append fragment)
  | .close => none

variable {h : List Touch} {k : Nat} {ops : List Operation}

theorem lasting_concat (t : Touch) :
    lasting (h ++ [t]) = if t.closes then [] else lasting h ++ [t] := by
  rw [lasting, List.rtakeWhile_concat, lasting]
  cases t.closes <;> rfl

theorem recent_concat (t : Touch) :
    recent (h ++ [t]) = if t.closes || t.starts then [] else recent h ++ [t] := by
  rw [recent, lasting_concat]
  cases t.closes
  · simp only [Bool.false_eq_true, if_false, Bool.false_or]
    rw [List.rtakeWhile_concat, recent]
    cases t.starts <;> rfl
  · rfl

/-- The last of some values, one more of which there may be. -/
theorem getLastD_filterMap_concat {α β : Type} (f : α → Option β) (xs : List α) (x : α)
    (default : β) : ((xs ++ [x]).filterMap f).getLastD default =
      (f x).getD ((xs.filterMap f).getLastD default) := by
  rw [List.filterMap_append]
  cases hx : f x <;> simp [hx]

theorem given_concat (t : Touch) :
    given (h ++ [t]) = if t.closes then ("", "") else t.given?.getD (given h) := by
  rw [given, lasting_concat]
  cases t.closes
  · exact getLastD_filterMap_concat ..
  · rfl

/-- The slot of an index with this history, or the one it would be opened
with. -/
def slotOf (h : List Touch) : CallSlot := ⟨idOf h, nameOf h, textOf h⟩

theorem slotOf_of_closed (hclosed : lasting h = []) : slotOf h = .blank := by
  simp [slotOf, idOf, nameOf, textOf, recent, given, hclosed, CallSlot.blank]

/-- What neither closes nor starts a slot adds to it. -/
theorem slotOf_concat {t : Touch} (hcloses : t.closes = false) (hstarts : t.starts = false) :
    slotOf (h ++ [t]) =
      ⟨t.id?.getD (idOf h), t.name?.getD (nameOf h), textOf h ++ t.fragment?.getD ""⟩ := by
  have hrecent : recent (h ++ [t]) = recent h ++ [t] := by
    rw [recent_concat, hcloses, hstarts]
    rfl
  have hgiven : given (h ++ [t]) = given h := by
    rw [given_concat, hcloses]
    cases t <;> first | rfl | cases hstarts
  have htext : textOf (h ++ [t]) = textOf h ++ t.fragment?.getD "" := by
    rw [textOf, hrecent, List.filterMap_append, String.join_append, textOf]
    cases hfragment : t.fragment? <;> simp [hfragment]
  rw [slotOf, idOf, nameOf, hrecent, hgiven, htext, getLastD_filterMap_concat,
    getLastD_filterMap_concat, idOf, nameOf]

/-- The slot a history leaves open, if it leaves one. -/
def opened (h : List Touch) : Option CallSlot :=
  if lasting h = [] then none else some (slotOf h)

theorem getD_opened (h : List Touch) : (opened h).getD .blank = slotOf h := by
  rw [opened]
  split
  · rename_i hclosed
    exact (slotOf_of_closed hclosed).symm
  · rfl

/-- **A touch leaves what the history with it tells of.** -/
theorem opened_concat (h : List Touch) (t : Touch) : opened (h ++ [t]) = t.leave (opened h) := by
  have hslot := getD_opened h
  rw [opened, lasting_concat]
  cases t with
  | close => rfl
  | start id name =>
    have hstart : slotOf (h ++ [.start id name]) = ⟨id, name, ""⟩ := by
      rw [slotOf, idOf, nameOf, textOf, recent_concat, given_concat]
      rfl
    rw [hstart]
    simp [Touch.leave, Touch.closes]
  | identify id name =>
    have hidentify : slotOf (h ++ [.identify id name]) = (slotOf h).identify id name := by
      rw [slotOf_concat rfl rfl, CallSlot.identify_eq]
      simp [slotOf, Touch.id?, Touch.name?, Touch.fragment?]
    rw [Touch.leave, hslot, hidentify]
    simp [Touch.closes]
  | append fragment =>
    have happend : slotOf (h ++ [.append fragment]) = (slotOf h).append fragment :=
      slotOf_concat rfl rfl
    rw [Touch.leave, hslot, happend]
    simp [Touch.closes]

theorem opened_append (h later : List Touch) :
    opened (h ++ later) = later.foldl Touch.leave (opened h) := by
  induction later using List.reverseRecOn with
  | nil => rw [List.append_nil, List.foldl_nil]
  | append_singleton later t ih =>
    rw [← List.append_assoc, opened_concat, ih, List.foldl_append]
    rfl

theorem told_eq (h : List Touch) : told h = (opened h).map CallSlot.call := by
  rw [told, opened]
  split
  · rfl
  · rw [Option.map_some, CallSlot.call, ToolCall.make_parseArguments]
    rfl

theorem opened_eq (h : List Touch) : opened h = h.foldl Touch.leave none := opened_append [] h

/-- **What was done before a slot was started does not count.** -/
theorem told_append_start (past later : List Touch) (id name : String) :
    told (past ++ .start id name :: later) = told (.start id name :: later) := by
  rw [told_eq, told_eq, opened_append, opened_eq (.start id name :: later)]
  rfl

/-- **Nor does what was done before it was closed.** -/
theorem told_append_close (past later : List Touch) :
    told (past ++ .close :: later) = told later := by
  rw [told_eq, told_eq, opened_append, opened_eq later]
  rfl

/-! ## Operations in turn -/

/-- An operation touches the slot of an index as it does there. -/
theorem get?_perform (a : Assembly) (op : Operation) (k : Nat) :
    (op.perform a).1.get? k =
      match op.at? k with
      | some t => t.leave (a.get? k)
      | none => a.get? k := by
  cases op with
  | start index id name =>
    rw [Operation.perform, Operation.at?, get?_start]
    split <;> rfl
  | identify index id name =>
    rw [Operation.perform, Operation.at?, get?_identify]
    by_cases hk : index = k
    · rw [if_pos hk, if_pos hk, hk]
      rfl
    · rw [if_neg hk, if_neg hk]
  | append index fragment =>
    rw [Operation.perform, Operation.at?, get?_append]
    by_cases hk : index = k
    · rw [if_pos hk, if_pos hk, hk]
      rfl
    · rw [if_neg hk, if_neg hk]
  | finish index =>
    rw [Operation.perform, Operation.at?, get?_finish]
    split <;> rfl
  | finishAll => rfl

theorem Ordered.perform {a : Assembly} (ha : a.Ordered) (op : Operation) :
    (op.perform a).1.Ordered := by
  cases op with
  | start index id name => exact ha.set ..
  | identify index id name => exact ha.set ..
  | append index fragment => exact ha.set ..
  | finish index => exact ha.finish index
  | finishAll => exact ordered_empty

theorem run_concat (op : Operation) :
    run (ops ++ [op]) =
      ((op.perform (after ops)).1, (run ops).2 ++ (op.perform (after ops)).2) := by
  rw [run, List.foldl_append]
  rfl

theorem after_concat (op : Operation) : after (ops ++ [op]) = (op.perform (after ops)).1 := by
  rw [after, run_concat]

theorem ordered_after (ops : List Operation) : (after ops).Ordered := by
  induction ops using List.reverseRecOn with
  | nil => exact ordered_empty
  | append_singleton ops op ih =>
    rw [after_concat]
    exact ih.perform op

theorem history_concat (op : Operation) :
    history k (ops ++ [op]) = history k ops ++ (op.at? k).toList := by
  rw [history, List.filterMap_append, history]
  cases hat : op.at? k <;> simp [hat]

/-- **What a slot holds is told by the history of its index.** -/
theorem get?_after (ops : List Operation) (k : Nat) :
    (after ops).get? k = opened (history k ops) := by
  induction ops using List.reverseRecOn with
  | nil => rfl
  | append_singleton ops op ih =>
    rw [after_concat, get?_perform, ih, history_concat]
    cases op.at? k with
    | none => rw [Option.toList_none, List.append_nil]
    | some t => exact (opened_concat _ t).symm

/-- **So is the call it would give.** -/
theorem call_after (ops : List Operation) (k : Nat) :
    ((after ops).get? k).map CallSlot.call = told (history k ops) := by
  rw [get?_after, told_eq]

/-- An assembly is told by its slots. -/
theorem Ordered.ext {a b : Assembly} (ha : a.Ordered) (hb : b.Ordered)
    (hget : ∀ k, a.get? k = b.get? k) : a = b :=
  congrArg Assembly.mk (Keyed.Sorted.ext ha hb hget)

/-! ## Calls returned -/

theorem closings_concat (past h : List Touch) (t : Touch) :
    closings past (h ++ [t]) =
      closings past h ++ if t.closes then (told (past ++ h)).toList else [] := by
  induction h generalizing past with
  | nil => simp [closings]
  | cons t' h ih =>
    rw [List.cons_append, closings, closings, ih]
    simp only [List.append_assoc, List.singleton_append]

/-- An operation returns a call for an index if it closes its slot. -/
theorem returned_perform (op : Operation) (k : Nat) :
    ((op.perform (after ops)).2.filter fun c => decide (c.1 = k)).map (·.2) =
      if (op.at? k).any Touch.closes then (told (history k ops)).toList else [] := by
  rw [← call_after]
  cases op with
  | start index id name =>
    rw [Operation.at?]
    split <;> rfl
  | identify index id name =>
    rw [Operation.at?]
    split <;> rfl
  | append index fragment =>
    rw [Operation.at?]
    split <;> rfl
  | finish index =>
    rw [Operation.perform, Operation.at?, finish]
    by_cases hk : index = k
    · rw [if_pos hk, hk]
      cases (after ops).get? k <;> simp [Touch.closes]
    · rw [if_neg hk]
      cases (after ops).get? index <;> simp [hk]
  | finishAll =>
    have hcalls := congrArg (List.map CallSlot.call)
      (Keyed.Sorted.map_filter_key (ordered_after ops) k)
    rw [List.map_map] at hcalls
    rw [Operation.perform, Operation.at?, finishAll, List.zip_map', List.filter_map, List.map_map]
    refine hcalls.trans ?_
    rw [get?]
    cases Keyed.find? k (after ops).slots <;> rfl

/-- **The calls returned for an index are those of its history.** -/
theorem callsFor_eq (k : Nat) (ops : List Operation) :
    callsFor k ops = closings [] (history k ops) := by
  induction ops using List.reverseRecOn with
  | nil => rfl
  | append_singleton ops op ih =>
    rw [callsFor, run_concat, List.filter_append, List.map_append, returned_perform]
    change callsFor k ops ++ _ = _
    rw [ih, history_concat]
    cases op.at? k with
    | none => simp
    | some t =>
      rw [Option.toList_some, closings_concat]
      rfl

/-! ## What is returned -/

/-- **What is returned for every index is told by its history.** -/
structure ToldApart (ops : List Operation) : Prop where
  /-- Closing an index returns the call its history tells of. -/
  finish : ∀ k, ((after ops).finish k).2 = told (history k ops)
  /-- Closing an index that is not open returns nothing and changes nothing. -/
  closed : ∀ k, (after ops).isOpen k = false → (after ops).finish k = (after ops, none)
  /-- Closing all returns the call of every open index, once each and in
  order of index. -/
  all : ∃ ks : List Nat, ks.Pairwise (· < ·) ∧ (∀ k, k ∈ ks ↔ (after ops).isOpen k = true) ∧
    (after ops).finishAll.2.map some = ks.map fun k => told (history k ops)
  /-- And leaves no index open. -/
  left : ∀ k, (after ops).finishAll.1.isOpen k = false
  /-- What was done before an index was last started does not count. -/
  started : ∀ k past id name later, history k ops = past ++ .start id name :: later →
    told (history k ops) = told (.start id name :: later)
  /-- Nor does what was done before it was last closed. -/
  reopened : ∀ k past later, history k ops = past ++ .close :: later →
    told (history k ops) = told later
  /-- Nothing is told of an index exactly if it is not open. -/
  silent : ∀ k, (after ops).isOpen k = (told (history k ops)).isSome
  /-- However its argument text is cut, the input of a call is the value
  that all of it together is the text of, and the empty object where that
  is null, the text is blank or no value. -/
  input : ∀ k call, ((after ops).finish k).2 = some call →
    (∀ value, Json.ofString? (textOf (history k ops)) = some value →
      call.input = if value.isNull then Json.empty else value) ∧
    (Text.allBlank (textOf (history k ops)) = true → call.input = Json.empty) ∧
    (Json.ofString? (textOf (history k ops)) = none → call.input = Json.empty)
  /-- The calls returned for an index on the way are those its history
  tells of where it closes. -/
  calls : ∀ k, callsFor k ops = closings [] (history k ops)
  /-- Operations with the same histories, however interleaved, leave the
  same and return the same calls for every index. -/
  interleaved : ∀ others, (∀ k, history k others = history k ops) →
    after others = after ops ∧ ∀ k, callsFor k others = callsFor k ops

theorem isOpen_after (ops : List Operation) (k : Nat) :
    (after ops).isOpen k = (told (history k ops)).isSome := by
  rw [isOpen, ← call_after, Option.isSome_map]

theorem finish_of_closed {a : Assembly} (ha : a.Ordered) (hk : a.isOpen k = false) :
    a.finish k = (a, none) := by
  have hnone : a.get? k = none := Option.isSome_eq_false_iff.mp hk |> Option.isNone_iff_eq_none.mp
  have hsame : (a.finish k).1 = a := by
    refine (ha.finish k).ext ha fun k' => ?_
    rw [get?_finish]
    split
    · rename_i heq
      rw [← heq, hnone]
    · rfl
  refine Prod.ext hsame ?_
  rw [finish, hnone]
  rfl

/-- The open indices, and the calls in their order. -/
theorem finishAll_after (ops : List Operation) :
    ∃ ks : List Nat, ks.Pairwise (· < ·) ∧ (∀ k, k ∈ ks ↔ (after ops).isOpen k = true) ∧
      (after ops).finishAll.2.map some = ks.map fun k => told (history k ops) := by
  have hordered := ordered_after ops
  have hsorted : (after ops).slots.Pairwise fun p q => p.1 < q.1 := hordered
  refine ⟨(after ops).slots.map (·.1), List.pairwise_map.mpr hsorted, fun k => ?_, ?_⟩
  · rw [isOpen, Option.isSome_iff_exists, List.mem_map]
    constructor
    · rintro ⟨⟨k, slot⟩, hmem, rfl⟩
      exact ⟨slot, hordered.mem_slots.mp hmem⟩
    · rintro ⟨slot, hslot⟩
      exact ⟨(k, slot), hordered.mem_slots.mpr hslot, rfl⟩
  · rw [finishAll, List.map_map, List.map_map]
    refine List.map_congr_left fun p hp => ?_
    have hslot : (after ops).get? p.1 = some p.2 := hordered.mem_slots.mp hp
    change some p.2.call = told (history p.1 ops)
    rw [← call_after, hslot, Option.map_some]

theorem after_congr {others : List Operation} (hsame : ∀ k, history k others = history k ops) :
    after others = after ops := by
  refine (ordered_after others).ext (ordered_after ops) fun k => ?_
  rw [get?_after, get?_after, hsame]

/-- **Calls are put together apart from each other**, by any operations in
any order. -/
theorem toldApart (ops : List Operation) : ToldApart ops where
  finish := call_after ops
  closed _ := finish_of_closed (ordered_after ops)
  all := finishAll_after ops
  left _ := rfl
  started k past id name later heq := by rw [heq, told_append_start]
  reopened k past later heq := by rw [heq, told_append_close]
  silent := isOpen_after ops
  input k call hcall := by
    have hinput : call.input = inputOf (textOf (history k ops)) := by
      have htold : told (history k ops) = some call := (call_after ops k).symm.trans hcall
      rw [told] at htold
      split at htold
      · cases htold
      · cases htold
        rfl
    rw [hinput]
    refine ⟨fun value hvalue => ?_, inputOf_of_allBlank, fun hnone => ?_⟩
    · rw [inputOf, hvalue]
    · rw [inputOf, hnone]
  calls k := callsFor_eq k ops
  interleaved others hsame := by
    refine ⟨after_congr hsame, fun k => ?_⟩
    rw [callsFor_eq, callsFor_eq, hsame]

/-- Two calls, their fragments in turn. -/
def inTurn : List Operation :=
  [.start 0 "a" "f", .append 1 "[", .append 0 "\x7b", .identify 1 (some "b") (some "g"),
    .append 0 "\x7d", .append 1 "1]", .finishAll]

/-- The same, the second call first. -/
def oneByOne : List Operation :=
  [.append 1 "[", .identify 1 (some "b") (some "g"), .append 1 "1]", .start 0 "a" "f",
    .append 0 "\x7b", .append 0 "\x7d", .finishAll]

theorem history_oneByOne (k : Nat) : history k oneByOne = history k inTurn := by
  by_cases h0 : k = 0
  · rw [h0]
    rfl
  · by_cases h1 : k = 1
    · rw [h1]
      rfl
    · simp [history, oneByOne, inTurn, Operation.at?, Ne.symm h0, Ne.symm h1]

/-- Two interleavings return the same two calls. -/
theorem toldApart_oneByOne :
    (∀ k, callsFor k oneByOne = callsFor k inTurn) ∧
      callsFor 1 inTurn = [⟨"b", "g", .arr [.int 1]⟩] := by
  refine ⟨((toldApart inTurn).interleaved oneByOne history_oneByOne).2, ?_⟩
  rw [(toldApart inTurn).calls]
  decide +kernel

end Assembly

end Turnstile
