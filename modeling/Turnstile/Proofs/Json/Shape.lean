import Turnstile.Json.Doc
import Turnstile.Proofs.Json.Equality
import Turnstile.Proofs.Json.Fields
import Turnstile.Proofs.Keyed
import Mathlib.Data.String.Basic
/-!
# The shape of a free-form value

A value can be written and read back if its numbers are integers of 64
bits (`Json.integral`) and it nests no deeper than the reader goes
(`Json.depth`, `Doc.Fits`). Its objects are in order of key
(`Json.ordered`): nothing else is ever read (`Doc.fits_of_toJson?`), and of
such a value nothing is lost (`Doc.toJson?_ofJson`).
-/

namespace Turnstile

namespace Keyed

variable {κ α : Type} [LT κ] [DecidableLT κ]

instance (m : List (κ × α)) : Decidable (Sorted m) :=
  inferInstanceAs (Decidable (List.Pairwise _ _))

variable [DecidableEq κ]

theorem ofList_append_singleton (m : List (κ × α)) (k : κ) (v : α) :
    ofList (m ++ [(k, v)]) = insert k v (ofList m) := by
  rw [ofList, List.foldl_append]
  rfl

/-- Whatever the order of the pairs, the map of them is in order of key. -/
theorem sorted_ofList [IsTrans κ (· < ·)] [Std.Trichotomous (α := κ) (· < ·)]
    (m : List (κ × α)) : Sorted (ofList m) := by
  induction m using List.reverseRecOn with
  | nil => exact sorted_nil
  | append_singleton init last ih =>
    rw [ofList_append_singleton]
    exact ih.insert last.1 last.2

theorem mem_of_mem_ofList {m : List (κ × α)} {p : κ × α} (h : p ∈ ofList m) : p ∈ m := by
  induction m using List.reverseRecOn with
  | nil => exact h
  | append_singleton init last ih =>
    rw [ofList_append_singleton] at h
    rcases mem_insert h with rfl | h
    · exact List.mem_append_right _ List.mem_cons_self
    · exact List.mem_append_left _ (ih h)

/-- The greatest key goes to the end. -/
theorem insert_eq_append [IsTrans κ (· < ·)] [Std.Irrefl (α := κ) (· < ·)] {m : List (κ × α)}
    {k : κ} (h : ∀ p ∈ m, p.1 < k) (v : α) : insert k v m = m ++ [(k, v)] := by
  induction m with
  | nil => rfl
  | cons p rest ih =>
    obtain ⟨hlt, hrest⟩ := List.forall_mem_cons.mp h
    have hnot : ¬ k < p.1 := fun hgt => Std.Irrefl.irrefl k (Trans.trans hgt hlt)
    have hne : k ≠ p.1 := by
      rintro rfl
      exact Std.Irrefl.irrefl p.1 hlt
    rw [insert, if_neg hnot, if_neg hne, ih hrest, List.cons_append]

/-- **The map of pairs in order of key is these pairs.** -/
theorem Sorted.ofList_eq [IsTrans κ (· < ·)] [Std.Irrefl (α := κ) (· < ·)]
    {m : List (κ × α)} (h : Sorted m) : ofList m = m := by
  induction m using List.reverseRecOn with
  | nil => rfl
  | append_singleton init last ih =>
    obtain ⟨hinit, -, hlast⟩ := List.pairwise_append.mp h
    rw [ofList_append_singleton, ih hinit]
    exact insert_eq_append (fun p hp => hlast p hp last List.mem_cons_self) last.2

end Keyed

namespace Json

mutual

/-- Every number is an integer of 64 bits, signed or not. -/
def integral : Json → Bool
  | .num (.int n) => decide (-(Nat.pow 2 63 : Int) ≤ n) && decide (n < Nat.pow 2 64)
  | .num (.float _) => false
  | .arr xs => integralItems xs
  | .obj fs => integralFields fs
  | _ => true

/-- So are those of all items. -/
def integralItems : List Json → Bool
  | [] => true
  | x :: xs => integral x && integralItems xs

/-- So are those of all fields. -/
def integralFields : List (String × Json) → Bool
  | [] => true
  | (_, v) :: rest => integral v && integralFields rest

end

mutual

/-- How many arrays and objects are around what stands deepest. -/
def depth : Json → Nat
  | .arr xs => depthItems xs + 1
  | .obj fs => depthFields fs + 1
  | _ => 0

/-- The same of the deepest item. -/
def depthItems : List Json → Nat
  | [] => 0
  | x :: xs => max (depth x) (depthItems xs)

/-- The same of the deepest field. -/
def depthFields : List (String × Json) → Nat
  | [] => 0
  | (_, v) :: rest => max (depth v) (depthFields rest)

end

mutual

/-- Every object has its fields in order of key. -/
def ordered : Json → Bool
  | .arr xs => orderedItems xs
  | .obj fs => decide (Keyed.Sorted fs) && orderedFields fs
  | _ => true

/-- So have all items. -/
def orderedItems : List Json → Bool
  | [] => true
  | x :: xs => ordered x && orderedItems xs

/-- So have all fields. -/
def orderedFields : List (String × Json) → Bool
  | [] => true
  | (_, v) :: rest => ordered v && orderedFields rest

end

/-! ## Leaves -/

@[simp] theorem integral_null : null.integral = true := rfl
@[simp] theorem integral_bool (b : Bool) : (bool b).integral = true := rfl
@[simp] theorem integral_str (s : String) : (str s).integral = true := rfl
@[simp] theorem depth_null : null.depth = 0 := rfl
@[simp] theorem depth_bool (b : Bool) : (bool b).depth = 0 := rfl
@[simp] theorem depth_num (n : Number) : (num n).depth = 0 := rfl
@[simp] theorem depth_nat (n : Nat) : (nat n).depth = 0 := rfl
@[simp] theorem depth_str (s : String) : (str s).depth = 0 := rfl

/-- A count of fewer than 64 bits. -/
theorem integral_nat {n : Nat} (h : n < Nat.pow 2 64) : (nat n).integral = true := by
  rw [nat, integral, Bool.and_eq_true, decide_eq_true_eq, decide_eq_true_eq]
  exact ⟨by omega, Int.ofNat_lt.mpr h⟩

/-! ## Items and fields -/

variable {xs : List Json} {fs : List (String × Json)}

theorem integralItems_iff : integralItems xs = true ↔ ∀ x ∈ xs, x.integral = true := by
  induction xs with
  | nil => simp [integralItems]
  | cons x xs ih => simp [integralItems, ih]

theorem integralFields_iff : integralFields fs = true ↔ ∀ p ∈ fs, p.2.integral = true := by
  induction fs with
  | nil => simp [integralFields]
  | cons p fs ih => rw [integralFields, Bool.and_eq_true, ih, List.forall_mem_cons]

theorem orderedFields_iff : orderedFields fs = true ↔ ∀ p ∈ fs, p.2.ordered = true := by
  induction fs with
  | nil => simp [orderedFields]
  | cons p fs ih => rw [orderedFields, Bool.and_eq_true, ih, List.forall_mem_cons]

theorem depthItems_le_iff {n : Nat} : depthItems xs ≤ n ↔ ∀ x ∈ xs, x.depth ≤ n := by
  induction xs with
  | nil => simp [depthItems]
  | cons x xs ih => rw [depthItems, Nat.max_le, ih, List.forall_mem_cons]

theorem depthFields_le_iff {n : Nat} : depthFields fs ≤ n ↔ ∀ p ∈ fs, p.2.depth ≤ n := by
  induction fs with
  | nil => simp [depthFields]
  | cons p fs ih => rw [depthFields, Nat.max_le, ih, List.forall_mem_cons]

/-! ## Lists and objects that are put together -/

/-- A list is integral if what its items are written as is. -/
theorem integral_arr_map {α : Type} {write : α → Json} {as : List α}
    (h : ∀ a ∈ as, (write a).integral = true) : (arr (as.map write)).integral = true := by
  rw [integral, integralItems_iff, List.forall_mem_map]
  exact h

theorem integral_singleton {x : Json} (h : x.integral = true) : (arr [x]).integral = true := by
  rw [integral, integralItems_iff, List.forall_mem_singleton]
  exact h

theorem depth_singleton_le {x : Json} {n : Nat} (h : x.depth ≤ n) : (arr [x]).depth ≤ n + 1 := by
  rw [depth, Nat.add_le_add_iff_right, depthItems_le_iff, List.forall_mem_singleton]
  exact h

theorem integral_ofFields (h : ∀ p ∈ fs, p.2.integral = true) : (ofFields fs).integral = true := by
  rw [ofFields, integral, integralFields_iff]
  exact fun p hp => h p (Keyed.mem_of_mem_ofList hp)

theorem ordered_ofFields (h : ∀ p ∈ fs, p.2.ordered = true) : (ofFields fs).ordered = true := by
  rw [ofFields, ordered, Bool.and_eq_true]
  refine ⟨decide_eq_true (Keyed.sorted_ofList fs), orderedFields_iff.mpr fun p hp => ?_⟩
  exact h p (Keyed.mem_of_mem_ofList hp)

theorem depth_ofFields_le {n : Nat} (h : ∀ p ∈ fs, p.2.depth ≤ n) :
    (ofFields fs).depth ≤ n + 1 := by
  rw [ofFields, depth, Nat.add_le_add_iff_right, depthFields_le_iff]
  exact fun p hp => h p (Keyed.mem_of_mem_ofList hp)

/-- A field is less deep than the object. -/
theorem depth_lt_of_get? {j v : Json} {key : String} (h : j.get? key = some v) :
    v.depth < j.depth := by
  cases j with
  | obj fs =>
    obtain ⟨p, hp, rfl⟩ := Option.map_eq_some_iff.mp h
    exact Nat.lt_succ_of_le (depthFields_le_iff.mp (Nat.le_refl _) p (List.mem_of_find?_eq_some hp))
  | _ => cases h

end Json

namespace Doc

/-- There is room for a value that is so deep. -/
def Fits (limit : Option Nat) (depth : Nat) : Prop := ∀ n ∈ limit, depth ≤ n - 1

theorem fits_none (depth : Nat) : Fits none depth := fun _ h => nomatch h

@[simp] theorem fits_zero (limit : Option Nat) : Fits limit 0 := fun _ _ => Nat.zero_le _

theorem fits_some {n depth : Nat} (h : depth ≤ n - 1) : Fits (some n) depth := by
  rintro _ ⟨⟩
  exact h

theorem Fits.mono {limit : Option Nat} {d e : Nat} (h : Fits limit d) (hle : e ≤ d) :
    Fits limit e :=
  fun n hn => Nat.le_trans hle (h n hn)

/-- **One level in there is room for one level less.** -/
theorem fits_succ_iff {limit : Option Nat} {depth : Nat} :
    Fits limit (depth + 1) ↔ ∃ within, inside limit = some within ∧ Fits within depth := by
  constructor
  · intro h
    match limit with
    | none => exact ⟨none, rfl, fits_none depth⟩
    | some 0 | some 1 => exact absurd (h _ rfl) (by omega)
    | some (n + 2) =>
      have hle : depth + 1 ≤ n + 1 := h _ rfl
      exact ⟨some (n + 1), rfl, fits_some (by omega)⟩
  · rintro ⟨within, hinside, h⟩
    match limit with
    | none => exact fits_none _
    | some 0 | some 1 => cases hinside
    | some (n + 2) =>
      cases hinside
      have hle : depth ≤ n := h _ rfl
      exact fits_some (by omega)

/-! ## Values as documents -/

-- each array and object takes a level of the room, on both sides
mutual

/-- **A value for which there is room is read as itself.** -/
theorem toJson?_ofJson : (j : Json) → j.ordered = true → ∀ {limit : Option Nat},
    Fits limit j.depth → toJson? limit (ofJson j) = some j
  | .null, _, _, _ | .bool _, _, _, _ | .num _, _, _, _ | .str _, _, _, _ => rfl
  | .arr xs, ho, limit, hfits => by
    obtain ⟨within, hinside, hfits⟩ := fits_succ_iff.mp hfits
    rw [ofJson, toJson?, hinside]
    simp only [itemsToJson?_ofItems xs ho hfits, Option.map_some]
  | .obj fs, ho, limit, hfits => by
    obtain ⟨hsorted, ho⟩ := Bool.and_eq_true_iff.mp ho
    obtain ⟨within, hinside, hfits⟩ := fits_succ_iff.mp hfits
    rw [ofJson, toJson?, hinside]
    simp only [fieldsToJson?_ofFields fs ho hfits, Option.map_some, Json.ofFields,
      (of_decide_eq_true hsorted).ofList_eq]

theorem itemsToJson?_ofItems : (xs : List Json) → Json.orderedItems xs = true →
    ∀ {limit : Option Nat}, Fits limit (Json.depthItems xs) →
      itemsToJson? limit (ofItems xs) = some xs
  | [], _, _, _ => rfl
  | x :: xs, ho, limit, hfits => by
    obtain ⟨hx, hxs⟩ := Bool.and_eq_true_iff.mp ho
    rw [ofItems, itemsToJson?, toJson?_ofJson x hx (hfits.mono (Nat.le_max_left ..)),
      itemsToJson?_ofItems xs hxs (hfits.mono (Nat.le_max_right ..))]

theorem fieldsToJson?_ofFields : (fs : List (String × Json)) → Json.orderedFields fs = true →
    ∀ {limit : Option Nat}, Fits limit (Json.depthFields fs) →
      fieldsToJson? limit (ofFields fs) = some fs
  | [], _, _, _ => rfl
  | (k, v) :: fs, ho, limit, hfits => by
    obtain ⟨hv, hfs⟩ := Bool.and_eq_true_iff.mp ho
    have hread := toJson?_ofJson v hv (hfits.mono (Nat.le_max_left ..))
    have hrest := fieldsToJson?_ofFields fs hfs (hfits.mono (Nat.le_max_right ..))
    simp only [ofFields, fieldsToJson?, hread, hrest]

end

mutual

/-- **What is read of a document is in order and had room.** -/
theorem fits_of_toJson? : (doc : Doc) → ∀ {limit : Option Nat} {j : Json},
    toJson? limit doc = some j → j.ordered = true ∧ Fits limit j.depth
  | .null, _, _, h | .bool _, _, _, h => by
    cases h
    exact ⟨rfl, fits_zero _⟩
  | .num n, _, _, h | .str s, _, _, h => by
    obtain ⟨_, -, rfl⟩ := Option.map_eq_some_iff.mp h
    exact ⟨rfl, fits_zero _⟩
  | .arr docs, limit, j, h => by
    rw [toJson?] at h
    split at h
    · rename_i within hinside
      obtain ⟨xs, hxs, rfl⟩ := Option.map_eq_some_iff.mp h
      obtain ⟨ho, hfits⟩ := fits_of_itemsToJson? docs hxs
      exact ⟨ho, fits_succ_iff.mpr ⟨within, hinside, hfits⟩⟩
    · cases h
  | .obj docs, limit, j, h => by
    rw [toJson?] at h
    split at h
    · rename_i within hinside
      obtain ⟨fs, hfs, rfl⟩ := Option.map_eq_some_iff.mp h
      obtain ⟨ho, hfits⟩ := fits_of_fieldsToJson? docs hfs
      -- of fields with one name the last is kept, which is no deeper
      refine ⟨Json.ordered_ofFields (Json.orderedFields_iff.mp ho), ?_⟩
      refine (fits_succ_iff.mpr ⟨within, hinside, hfits⟩).mono ?_
      exact Json.depth_ofFields_le (Json.depthFields_le_iff.mp (Nat.le_refl _))
    · cases h

theorem fits_of_itemsToJson? : (docs : List Doc) → ∀ {limit : Option Nat} {xs : List Json},
    itemsToJson? limit docs = some xs →
      Json.orderedItems xs = true ∧ Fits limit (Json.depthItems xs)
  | [], _, _, h => by
    cases h
    exact ⟨rfl, fits_zero _⟩
  | doc :: docs, limit, xs, h => by
    rw [itemsToJson?] at h
    split at h
    · rename_i x xs hx hxs
      cases h
      obtain ⟨hox, hfx⟩ := fits_of_toJson? doc hx
      obtain ⟨hoxs, hfxs⟩ := fits_of_itemsToJson? docs hxs
      exact ⟨Bool.and_eq_true_iff.mpr ⟨hox, hoxs⟩,
        fun n hn => Nat.max_le.mpr ⟨hfx n hn, hfxs n hn⟩⟩
    · cases h

theorem fits_of_fieldsToJson? : (docs : List (Option String × Doc)) →
    ∀ {limit : Option Nat} {fs : List (String × Json)}, fieldsToJson? limit docs = some fs →
      Json.orderedFields fs = true ∧ Fits limit (Json.depthFields fs)
  | [], _, _, h => by
    cases h
    exact ⟨rfl, fits_zero _⟩
  | (none, doc) :: docs, limit, fs, h => by
    simp only [fieldsToJson?, reduceCtorEq] at h
  | (some key, doc) :: docs, limit, fs, h => by
    simp only [fieldsToJson?] at h
    split at h
    · rename_i key v rest hkey hv hrest
      cases hkey
      cases h
      obtain ⟨hov, hfv⟩ := fits_of_toJson? doc hv
      obtain ⟨hofs, hffs⟩ := fits_of_fieldsToJson? docs hrest
      exact ⟨Bool.and_eq_true_iff.mpr ⟨hov, hofs⟩,
        fun n hn => Nat.max_le.mpr ⟨hfv n hn, hffs n hn⟩⟩
    · cases h

end

end Doc

end Turnstile
