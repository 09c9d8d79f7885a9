/-!
# Keyed lists — small ordered maps

Lists of pairs in strictly increasing order of key, at most one pair a
key. Inserting keeps the order, so the list is its own sorted listing.
What a list holds is what `find?` gives: `find?_insert` and `find?_erase`
say how the operations change it.
-/

namespace Turnstile

namespace Keyed

variable {κ α : Type} [DecidableEq κ]

/-- The value under a key. -/
def find? (key : κ) (m : List (κ × α)) : Option α :=
  (m.find? fun p => decide (p.1 = key)).map (·.2)

/-- Remove a key. -/
def erase (key : κ) (m : List (κ × α)) : List (κ × α) :=
  m.filter fun p => !decide (p.1 = key)

@[simp] theorem find?_nil (key : κ) : find? key ([] : List (κ × α)) = none := rfl

theorem find?_cons (key k : κ) (v : α) (m : List (κ × α)) :
    find? key ((k, v) :: m) = if k = key then some v else find? key m := by
  by_cases h : k = key <;> simp [find?, h]

/-- **A key that was erased holds nothing, and the others what they
held.** -/
theorem find?_erase (key k : κ) (m : List (κ × α)) :
    find? k (erase key m) = if key = k then none else find? k m := by
  induction m with
  | nil => simp [erase]
  | cons p rest ih =>
    obtain ⟨k', v⟩ := p
    by_cases h : k' = key
    · have : erase key ((k', v) :: rest) = erase key rest := by simp [erase, h]
      rw [this, ih, find?_cons, h]
      split <;> rfl
    · have : erase key ((k', v) :: rest) = (k', v) :: erase key rest := by simp [erase, h]
      rw [this, find?_cons, find?_cons, ih]
      by_cases hk : k' = k
      · subst hk
        simp [Ne.symm h]
      · simp [hk]

/-! ## Order -/

variable [LT κ] [DecidableLT κ]

/-- Put a value under a key, replacing what is there. -/
def insert (key : κ) (value : α) : List (κ × α) → List (κ × α)
  | [] => [(key, value)]
  | (k, v) :: rest =>
    if key < k then (key, value) :: (k, v) :: rest
    else if key = k then (key, value) :: rest
    else (k, v) :: insert key value rest

/-- The map of pairs in any order; of equal keys the last one stands. -/
def ofList (pairs : List (κ × α)) : List (κ × α) :=
  pairs.foldl (fun m p => insert p.1 p.2 m) []

/-- **A key that was inserted holds its value, and the others what they
held.** -/
theorem find?_insert (key k : κ) (value : α) (m : List (κ × α)) :
    find? k (insert key value m) = if key = k then some value else find? k m := by
  induction m with
  | nil => rw [insert, find?_cons]
  | cons p rest ih =>
    obtain ⟨k', v⟩ := p
    rw [insert]
    split
    · rw [find?_cons]
    · split
      · rename_i h
        subst h
        simp only [find?_cons]
        split <;> rfl
      · rename_i h
        simp only [find?_cons, ih]
        by_cases hk : k' = k
        · subst hk
          simp [h]
        · simp [hk]

end Keyed

end Turnstile
