import Turnstile.Proofs.Keyed
import Turnstile.Tool.Assembly
/-!
# What an assembly holds

How each operation changes the slot at each index, and that the slots stay
in order of index, which is the order the calls are given in.
-/

namespace Turnstile

namespace CallSlot

theorem append_empty (slot : CallSlot) : slot.append "" = slot := by
  rw [append, String.append_empty]

theorem append_append (slot : CallSlot) (fragment more : String) :
    (slot.append fragment).append more = slot.append (fragment ++ more) := by
  simp only [append, String.append_assoc]

/-- What is said and not empty is taken over. -/
theorem identify_eq (slot : CallSlot) (id name : Option String) :
    slot.identify id name =
      ⟨(id.filter (!·.isEmpty)).getD slot.id, (name.filter (!·.isEmpty)).getD slot.name,
        slot.arguments⟩ := by
  have hkeep (old said : String) :
      ((some said).filter (!·.isEmpty)).getD old = if said.isEmpty then old else said := by
    cases hsaid : said.isEmpty <;> simp [Option.filter, hsaid]
  rw [identify]
  cases id <;> cases name <;> simp only [hkeep] <;> rfl

end CallSlot

namespace Assembly

variable {a : Assembly}

@[simp] theorem get?_empty (k : Nat) : empty.get? k = none := rfl

theorem get?_set (a : Assembly) (index k : Nat) (slot : CallSlot) :
    (a.set index slot).get? k = if index = k then some slot else a.get? k :=
  Keyed.find?_insert index k slot a.slots

theorem get?_start (a : Assembly) (index k : Nat) (id name : String) :
    (a.start index id name).get? k = if index = k then some ⟨id, name, ""⟩ else a.get? k :=
  a.get?_set index k _

theorem get?_identify (a : Assembly) (index k : Nat) (id name : Option String) :
    (a.identify index id name).get? k =
      if index = k then some (((a.get? index).getD .blank).identify id name) else a.get? k :=
  a.get?_set index k _

theorem get?_append (a : Assembly) (index k : Nat) (fragment : String) :
    (a.append index fragment).get? k =
      if index = k then some (((a.get? index).getD .blank).append fragment) else a.get? k :=
  a.get?_set index k _

theorem get?_finish (a : Assembly) (index k : Nat) :
    (a.finish index).1.get? k = if index = k then none else a.get? k :=
  Keyed.find?_erase index k a.slots

/-! ## One slot -/

/-- One slot is open and no other. -/
def only (index : Nat) (slot : CallSlot) : Assembly := ⟨[(index, slot)]⟩

theorem append_only (index : Nat) (slot : CallSlot) (fragment : String) :
    (only index slot).append index fragment = only index (slot.append fragment) := by
  simp [only, append, set, get?, Keyed.find?_cons, Keyed.insert]

theorem finish_only (index : Nat) (slot : CallSlot) :
    (only index slot).finish index = (empty, some slot.call) := by
  simp [only, finish, get?, empty, Keyed.find?_cons, Keyed.erase]

/-! ## The order of the slots -/

/-- The slots are in increasing order of index. -/
def Ordered (a : Assembly) : Prop := Keyed.Sorted a.slots

theorem ordered_empty : empty.Ordered := Keyed.sorted_nil

theorem Ordered.set (h : a.Ordered) (index : Nat) (slot : CallSlot) : (a.set index slot).Ordered :=
  Keyed.Sorted.insert h index slot

theorem Ordered.finish (h : a.Ordered) (index : Nat) : (a.finish index).1.Ordered :=
  Keyed.Sorted.erase h index

theorem Ordered.mem_slots (h : a.Ordered) {index : Nat} {slot : CallSlot} :
    (index, slot) ∈ a.slots ↔ a.get? index = some slot :=
  (Keyed.Sorted.find?_eq_some_iff h).symm

end Assembly

end Turnstile
