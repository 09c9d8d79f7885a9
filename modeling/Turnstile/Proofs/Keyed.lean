import Turnstile.Keyed
import Mathlib.Data.List.Pairwise
import Mathlib.Order.Defs.LinearOrder
/-!
# Keyed lists — in order of key

A list built by the operations is in strictly increasing order of key, so
it has one pair a key at the most and is determined by what it holds
(`Sorted.ext`).
-/

namespace Turnstile

namespace Keyed

variable {κ α : Type} [LT κ]

/-- The keys strictly increase. -/
def Sorted (m : List (κ × α)) : Prop := m.Pairwise fun p q => p.1 < q.1

theorem sorted_nil : Sorted ([] : List (κ × α)) := List.Pairwise.nil

theorem Sorted.nodup [Std.Irrefl (α := κ) (· < ·)] {m : List (κ × α)} (h : Sorted m) :
    m.Nodup := by
  refine List.Pairwise.imp ?_ h
  rintro p _ hlt rfl
  exact Std.Irrefl.irrefl p.1 hlt

variable [DecidableEq κ]

omit [LT κ] in
/-- Each of some keys with its own value. -/
theorem find?_map_keys (keys : List κ) (f : κ → α) (key : κ) :
    find? key (keys.map fun k => (k, f k)) = if key ∈ keys then some (f key) else none := by
  induction keys with
  | nil => rfl
  | cons k rest ih =>
    rw [List.map_cons, find?_cons, ih]
    by_cases h : k = key
    · simp [h]
    · simp [h, Ne.symm h]

omit [LT κ] in
/-- The same under every one of some keys. -/
theorem find?_map_const (keys : List κ) (value : α) (key : κ) :
    find? key (keys.map fun k => (k, value)) = if key ∈ keys then some value else none :=
  find?_map_keys keys (fun _ => value) key

theorem Sorted.erase {m : List (κ × α)} (h : Sorted m) (key : κ) : Sorted (erase key m) :=
  List.Pairwise.filter _ h

/-- A pair of an ordered list is what is found under its key. -/
theorem Sorted.find?_eq_some_iff [Std.Irrefl (α := κ) (· < ·)] {m : List (κ × α)} (h : Sorted m)
    {key : κ} {value : α} : find? key m = some value ↔ (key, value) ∈ m := by
  induction m with
  | nil => simp
  | cons q rest ih =>
    obtain ⟨k, v⟩ := q
    obtain ⟨hfirst, hrest⟩ := List.pairwise_cons.mp h
    rw [find?_cons]
    split
    · rename_i heq
      subst heq
      have hnot : (k, value) ∉ rest := fun hmem => Std.Irrefl.irrefl k (hfirst _ hmem)
      simp [hnot, eq_comm]
    · rename_i hne
      rw [ih hrest]
      simp [Ne.symm hne]

/-- Under one key an ordered list has what is found there, once. -/
theorem Sorted.map_filter_key [Std.Irrefl (α := κ) (· < ·)] {m : List (κ × α)} (h : Sorted m)
    (key : κ) : (m.filter fun p => decide (p.1 = key)).map (·.2) = (find? key m).toList := by
  induction m with
  | nil => rfl
  | cons q rest ih =>
    obtain ⟨k, v⟩ := q
    obtain ⟨hfirst, hrest⟩ := List.pairwise_cons.mp h
    rw [find?_cons]
    split
    · rename_i heq
      subst heq
      have hnone : rest.filter (fun p => decide (p.1 = k)) = [] := by
        refine List.filter_eq_nil_iff.mpr fun p hp hkey => ?_
        have hlt : k < p.1 := hfirst p hp
        rw [of_decide_eq_true hkey] at hlt
        exact Std.Irrefl.irrefl k hlt
      rw [List.filter_cons_of_pos (by simp), hnone]
      rfl
    · rename_i hne
      rw [List.filter_cons_of_neg (by simpa using hne), ih hrest]

/-- **Ordered lists that hold the same are the same.** -/
theorem Sorted.ext [IsTrans κ (· < ·)] [Std.Irrefl (α := κ) (· < ·)] {m m' : List (κ × α)}
    (h : Sorted m) (h' : Sorted m') (hfind : ∀ key, find? key m = find? key m') : m = m' := by
  have hperm : m.Perm m' := by
    refine (List.perm_ext_iff_of_nodup h.nodup h'.nodup).mpr fun p => ?_
    rw [← h.find?_eq_some_iff, ← h'.find?_eq_some_iff, hfind]
  refine hperm.eq_of_pairwise (fun p q _ _ hpq hqp => ?_) h h'
  exact absurd (Trans.trans hpq hqp) (Std.Irrefl.irrefl p.1)

variable [DecidableLT κ]

/-- What is there after an insertion was put in or there before. -/
theorem mem_insert {key : κ} {value : α} {m : List (κ × α)} {p : κ × α}
    (h : p ∈ insert key value m) : p = (key, value) ∨ p ∈ m := by
  induction m with
  | nil => exact Or.inl (List.mem_singleton.mp h)
  | cons q rest ih =>
    obtain ⟨k, v⟩ := q
    rw [insert] at h
    split at h
    · exact List.mem_cons.mp h
    · split at h
      · exact (List.mem_cons.mp h).imp_right (List.mem_cons_of_mem _)
      · rcases List.mem_cons.mp h with rfl | h
        · exact Or.inr List.mem_cons_self
        · exact (ih h).imp_right (List.mem_cons_of_mem _)

theorem Sorted.insert [IsTrans κ (· < ·)] [Std.Trichotomous (α := κ) (· < ·)]
    {m : List (κ × α)} (h : Sorted m) (key : κ) (value : α) : Sorted (insert key value m) := by
  induction m with
  | nil => exact List.pairwise_singleton ..
  | cons q rest ih =>
    obtain ⟨k, v⟩ := q
    obtain ⟨hfirst, hrest⟩ := List.pairwise_cons.mp h
    rw [Keyed.insert]
    split
    · rename_i hlt
      refine List.pairwise_cons.mpr ⟨fun p hp => ?_, h⟩
      rcases List.mem_cons.mp hp with rfl | hp
      · exact hlt
      · exact Trans.trans hlt (hfirst p hp)
    · rename_i hnot
      split
      · rename_i heq
        subst heq
        exact List.pairwise_cons.mpr ⟨hfirst, hrest⟩
      · rename_i hne
        have hgt : k < key := by
          by_contra hle
          exact hne (Std.Trichotomous.trichotomous key k hnot hle)
        refine List.pairwise_cons.mpr ⟨fun p hp => ?_, ih hrest⟩
        rcases mem_insert hp with rfl | hp
        · exact hgt
        · exact hfirst p hp

end Keyed

end Turnstile
