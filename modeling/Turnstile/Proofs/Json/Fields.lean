import Turnstile.Json.Value
import Mathlib.Data.List.Induction
/-!
# Fields of an object that is put together

What an object made of fields holds under a key is decided field by field
(`Json.get?_ofFields_cons`, `Json.get?_ofFields_append`); a field that is
there only sometimes is an optional value (`Json.get?_ofFields_toList`).
Below are the ways the fields of a body are read.
-/

namespace Turnstile

namespace Keyed

variable {κ α : Type} [DecidableEq κ] [LT κ] [DecidableLT κ]

/-- Of equal keys the last one stands. -/
theorem find?_ofList_append_singleton (pairs : List (κ × α)) (k : κ) (v : α) (key : κ) :
    find? key (ofList (pairs ++ [(k, v)])) =
      if k = key then some v else find? key (ofList pairs) := by
  rw [ofList, List.foldl_append, List.foldl_cons, List.foldl_nil, find?_insert]
  rfl

/-- What comes later is looked at first. -/
theorem find?_ofList_append (pairs more : List (κ × α)) (key : κ) :
    find? key (ofList (pairs ++ more)) =
      (find? key (ofList more)).or (find? key (ofList pairs)) := by
  induction more using List.reverseRecOn with
  | nil =>
    rw [List.append_nil]
    rfl
  | append_singleton init last ih =>
    obtain ⟨k, v⟩ := last
    rw [← List.append_assoc, find?_ofList_append_singleton, find?_ofList_append_singleton, ih]
    split <;> rfl

end Keyed

namespace Json

variable (key k : String) (v : Json) (fields more : List (String × Json))

@[simp] theorem get?_ofFields_nil : (ofFields []).get? key = none := rfl

@[simp] theorem get?_ofFields_append :
    (ofFields (fields ++ more)).get? key =
      ((ofFields more).get? key).or ((ofFields fields).get? key) :=
  Keyed.find?_ofList_append fields more key

theorem get?_ofFields_singleton :
    (ofFields [(k, v)]).get? key = if k = key then some v else none := by
  rw [ofFields, get?, ← List.nil_append [(k, v)], Keyed.find?_ofList_append_singleton]
  rfl

@[simp] theorem get?_ofFields_cons :
    (ofFields ((k, v) :: fields)).get? key =
      ((ofFields fields).get? key).or (if k = key then some v else none) := by
  rw [← List.singleton_append, get?_ofFields_append, get?_ofFields_singleton]

/-- A field that is there if there is something to put in it. -/
@[simp] theorem get?_ofFields_toList {α : Type} (o : Option α) (f : α → Json) :
    (ofFields (o.toList.map fun a => (k, f a))).get? key =
      if k = key then o.map f else none := by
  cases o with
  | none => simp
  | some a => simp

/-- A field that is there unless a list is empty. -/
@[simp] theorem get?_ofFields_ite (p : Prop) [Decidable p] :
    (ofFields (if p then [] else [(k, v)])).get? key =
      if p then none else if k = key then some v else none := by
  split
  · rfl
  · exact get?_ofFields_singleton key k v

/-! ## Reading fields -/

/-- The text under a key. -/
def textAt? (key : String) (j : Json) : Option String := (j.get? key).bind asString?

/-- The truth value under a key. -/
def flagAt? (key : String) (j : Json) : Option Bool :=
  match j.get? key with
  | some (.bool b) => some b
  | _ => none

/-- The items of the list under a key. -/
def itemsAt? (key : String) (j : Json) : Option (List Json) :=
  match j.get? key with
  | some (.arr items) => some items
  | _ => none

/-- Items that were written and can all be read are read. -/
theorem mapM_map_eq_some_map {α β : Type} {write : α → Json} {read : Json → Option β}
    {f : α → β} {xs : List α} (h : ∀ x ∈ xs, read (write x) = some (f x)) :
    (xs.map write).mapM read = some (xs.map f) := by
  induction xs with
  | nil => rfl
  | cons x xs ih =>
    obtain ⟨hx, hxs⟩ := List.forall_mem_cons.mp h
    rw [List.map_cons, List.mapM_cons, hx, ih hxs]
    rfl

/-- So are they where reading undoes writing. -/
theorem mapM_map_eq_some {α : Type} {write : α → Json} {read : Json → Option α}
    (h : ∀ x, read (write x) = some x) (xs : List α) : (xs.map write).mapM read = some xs := by
  have hread := mapM_map_eq_some_map fun x (_ : x ∈ xs) => h x
  rwa [List.map_id'] at hread

/-- As many are read as there are. -/
theorem length_of_mapM {α : Type} {read : Json → Option α} {items : List Json} {xs : List α}
    (h : items.mapM read = some xs) : items.length = xs.length := by
  induction items generalizing xs with
  | nil =>
    cases h
    rfl
  | cons item rest ih =>
    rw [List.mapM_cons] at h
    obtain ⟨x, -, h⟩ := Option.bind_eq_some_iff.mp h
    obtain ⟨ys, hys, h⟩ := Option.bind_eq_some_iff.mp h
    cases h
    rw [List.length_cons, List.length_cons, ih hys]

end Json

end Turnstile
