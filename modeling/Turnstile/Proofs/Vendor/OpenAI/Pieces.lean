import Turnstile.Proofs.Tool.Assembly
import Turnstile.Vendor.OpenAI.Normalizer
import Mathlib.Data.List.Basic
/-!
# OpenAI — calls put together from pieces

A piece changes the slot of its index and no other, so what a slot holds is
told by the pieces of its index alone, in their order, whatever stands
between them (`get?_foldl_addCall`). If those give every call
(`Assembles`), the calls come out whole and in order, however the pieces of
different calls are interleaved (`finishAll_foldl_addCall`).
-/

namespace Turnstile

namespace OpenAI

/-! ## One slot -/

/-- The slot after a piece of its call. -/
def CallDelta.fill (d : CallDelta) (slot : CallSlot) : CallSlot :=
  (slot.identify d.id d.name).append (d.arguments.getD "")

theorem get?_addCall (a : Assembly) (d : CallDelta) (k : Nat) :
    (Progress.addCall a d).get? k =
      if d.index = k then some (d.fill ((a.get? k).getD .blank)) else a.get? k := by
  rw [Progress.addCall, CallDelta.fill]
  cases d.arguments with
  | none =>
    simp only [Assembly.get?_identify, Option.getD_none, CallSlot.append_empty]
    split
    · rename_i h
      rw [h]
    · rfl
  | some fragment =>
    simp only [Assembly.get?_append, Assembly.get?_identify, if_true, Option.getD_some]
    split
    · rename_i h
      rw [h]
    · rfl

/-- **What a slot holds is told by the pieces of its index alone.** -/
theorem get?_foldl_addCall (pieces : List CallDelta) (a : Assembly) (k : Nat) :
    (pieces.foldl Progress.addCall a).get? k =
      (pieces.filter (·.index = k)).foldl (fun slot d => some (d.fill (slot.getD .blank)))
        (a.get? k) := by
  induction pieces generalizing a with
  | nil => rfl
  | cons d pieces ih =>
    rw [List.foldl_cons, ih, get?_addCall]
    by_cases h : d.index = k
    · rw [if_pos h, List.filter_cons_of_pos (by simpa using h), List.foldl_cons]
    · rw [if_neg h, List.filter_cons_of_neg (by simpa using h)]

theorem foldl_fill (d : CallDelta) (pieces : List CallDelta) (slot : Option CallSlot) :
    (d :: pieces).foldl (fun slot d => some (d.fill (slot.getD .blank))) slot =
      some ((d :: pieces).foldl (fun slot d => d.fill slot) (slot.getD .blank)) := by
  induction pieces generalizing d slot with
  | nil => rfl
  | cons d' pieces ih =>
    rw [List.foldl_cons, ih, Option.getD_some]
    rfl

theorem ordered_foldl_addCall (pieces : List CallDelta) {a : Assembly} (h : a.Ordered) :
    (pieces.foldl Progress.addCall a).Ordered := by
  induction pieces generalizing a with
  | nil => exact h
  | cons d pieces ih =>
    refine ih ?_
    rw [Progress.addCall]
    cases d.arguments with
    | none => exact h.set ..
    | some fragment => exact (h.set ..).set ..

/-! ## Ids and names -/

/-- An id or a name after what a piece says of it. -/
def hear (known : String) : Option String → String
  | some said => if said.isEmpty then known else said
  | none => known

theorem fill_eq (d : CallDelta) (slot : CallSlot) :
    d.fill slot =
      ⟨hear slot.id d.id, hear slot.name d.name, slot.arguments ++ d.arguments.getD ""⟩ := by
  rw [CallDelta.fill]
  cases d.id <;> cases d.name <;> rfl

/-- The parts give an id or a name: whole in one of them, unless there is
nothing to give, and empty or not at all in the others. -/
structure Gives (whole : String) (parts : List (Option String)) : Prop where
  given : whole = "" ∨ some whole ∈ parts
  only : ∀ x ∈ parts, x = none ∨ x = some "" ∨ x = some whole

/-- What was not known is known once it was given, and is not forgotten. -/
theorem foldl_hear {whole known : String} {parts : List (Option String)}
    (hknown : known = "" ∨ known = whole) (hgiven : known = whole ∨ some whole ∈ parts)
    (honly : ∀ x ∈ parts, x = none ∨ x = some "" ∨ x = some whole) :
    parts.foldl hear known = whole := by
  induction parts generalizing known with
  | nil => exact hgiven.resolve_right (fun h => nomatch h)
  | cons x parts ih =>
    have hrest := fun y hy => honly y (List.mem_cons_of_mem x hy)
    rw [List.foldl_cons]
    -- only a part that is whole says anything
    rcases honly x List.mem_cons_self with rfl | rfl | rfl
    · refine ih hknown (hgiven.imp_right fun hmem => ?_) hrest
      exact (List.mem_cons.mp hmem).resolve_left (fun h => nomatch h)
    · refine ih hknown ?_ hrest
      rcases hgiven with hgiven | hmem
      · exact Or.inl hgiven
      · rcases List.mem_cons.mp hmem with hempty | hmem
        · have hwhole : whole = "" := Option.some.inj hempty
          exact Or.inl (hknown.elim (·.trans hwhole.symm) id)
        · exact Or.inr hmem
    · have hhear : hear known (some whole) = whole := by
        rw [hear]
        split
        · rename_i hempty
          have hwhole : whole = "" := by simpa using hempty
          exact hknown.elim (·.trans hwhole.symm) id
        · rfl
      rw [hhear]
      exact ih (Or.inr rfl) (Or.inl rfl) hrest

theorem Gives.foldl_hear {whole : String} {parts : List (Option String)}
    (h : Gives whole parts) : parts.foldl hear "" = whole :=
  OpenAI.foldl_hear (Or.inl rfl) (h.given.imp_left Eq.symm) h.only

/-! ## All calls -/

/-- The slot of a whole call. -/
def Call.slot (c : Call) : CallSlot := ⟨c.id, c.name, c.arguments⟩

/-- Pieces that give a call: one at the least, its id, its name and its
argument text. -/
structure Tell (c : Call) (pieces : List CallDelta) : Prop where
  ne : pieces ≠ []
  id : Gives c.id (pieces.map (·.id))
  name : Gives c.name (pieces.map (·.name))
  arguments : String.join (pieces.map fun d => d.arguments.getD "") = c.arguments

/-- Pieces that give every call under its number, and nothing else. -/
structure Assembles (calls : List Call) (pieces : List CallDelta) : Prop where
  bound : ∀ d ∈ pieces, d.index < calls.length
  tell : ∀ k c, calls[k]? = some c → Tell c (pieces.filter (·.index = k))

/-- A slot filled by pieces, part by part. -/
theorem foldl_fill_eq (pieces : List CallDelta) (slot : CallSlot) :
    pieces.foldl (fun slot d => d.fill slot) slot =
      ⟨(pieces.map (·.id)).foldl hear slot.id, (pieces.map (·.name)).foldl hear slot.name,
        slot.arguments ++ String.join (pieces.map fun d => d.arguments.getD "")⟩ := by
  induction pieces generalizing slot with
  | nil => simp
  | cons d pieces ih =>
    rw [List.foldl_cons, ih, fill_eq]
    simp only [List.map_cons, List.foldl_cons, String.join_cons, String.append_assoc]

/-- The slot its pieces fill is the call's. -/
theorem Tell.foldl_fill {c : Call} {pieces : List CallDelta} (h : Tell c pieces) :
    pieces.foldl (fun slot d => some (d.fill (slot.getD .blank))) none = some c.slot := by
  obtain ⟨d, rest, rfl⟩ := List.exists_cons_of_ne_nil h.ne
  rw [OpenAI.foldl_fill, foldl_fill_eq]
  have hid := h.id.foldl_hear
  have hname := h.name.foldl_hear
  simp only [Option.getD_none, CallSlot.blank, hid, hname, h.arguments, String.empty_append]
  rfl

/-- The slots of whole calls, each under its number. -/
def slots (calls : List Call) : List (Nat × CallSlot) :=
  calls.zipIdx.map fun p => (p.2, p.1.slot)

theorem sorted_slots (calls : List Call) : Keyed.Sorted (slots calls) := by
  have hnumbers : (calls.zipIdx.map Prod.snd).Pairwise (· < ·) := by
    rw [List.zipIdx_map_snd]
    exact List.pairwise_lt_range'
  exact List.pairwise_map.mpr (List.pairwise_map.mp hnumbers)

theorem find?_slots (calls : List Call) (k : Nat) :
    Keyed.find? k (slots calls) = calls[k]?.map Call.slot := by
  refine Option.ext fun slot => ?_
  rw [(sorted_slots calls).find?_eq_some_iff, slots, List.mem_map, Option.map_eq_some_iff]
  constructor
  · rintro ⟨⟨c, i⟩, hmem, heq⟩
    obtain ⟨rfl, rfl⟩ := Prod.mk.inj heq
    exact ⟨c, List.mem_zipIdx_iff_getElem?.mp hmem, rfl⟩
  · rintro ⟨c, hc, rfl⟩
    exact ⟨(c, k), List.mem_zipIdx_iff_getElem?.mpr hc, rfl⟩

/-- **Calls come out whole and in order** from any pieces that give them. -/
theorem finishAll_foldl_addCall {calls : List Call} {pieces : List CallDelta}
    (h : Assembles calls pieces) :
    (pieces.foldl Progress.addCall .empty).finishAll.2 = calls.map Call.toToolCall := by
  -- both are in order of number, so it is enough that they hold the same
  have hfind (k : Nat) : Keyed.find? k (pieces.foldl Progress.addCall .empty).slots =
      Keyed.find? k (slots calls) := by
    have hget := get?_foldl_addCall pieces .empty k
    rw [Assembly.get?_empty] at hget
    refine hget.trans ?_
    rw [find?_slots]
    cases hcall : calls[k]? with
    | some c => exact (h.tell k c hcall).foldl_fill
    | none =>
      -- no piece has a number beyond the calls
      have hnone : pieces.filter (·.index = k) = [] := by
        refine List.filter_eq_nil_iff.mpr fun d hd => ?_
        have hbound := h.bound d hd
        have hlength := List.getElem?_eq_none_iff.mp hcall
        simp only [decide_eq_true_eq]
        omega
      rw [hnone]
      rfl
  have hslots : (pieces.foldl Progress.addCall .empty).slots = slots calls :=
    Keyed.Sorted.ext (ordered_foldl_addCall pieces Assembly.ordered_empty)
      (sorted_slots calls) hfind
  rw [Assembly.finishAll, hslots, slots, List.map_map]
  conv => rhs; rw [← List.zipIdx_map_fst 0 calls, List.map_map]
  rfl

end OpenAI

end Turnstile
