import Turnstile.Proofs.Json.Scalars
import Turnstile.Proofs.Json.Shape
/-!
# The text of a value — what is written is read

A value of integers, written without blanks, is read as the document it
is, whatever follows it in the text (`Doc.value_chars`); the fuel the
reader is given is enough, since every value, item and field takes a
character at the least. So the whole text is read as the value
(`Doc.ofString?_compact`), and as a free-form value where it nests no
deeper than the reader goes (`Json.ofString?_compact`).
-/

namespace Turnstile

namespace Json

/-- The text of an integer: its sign and its digits. -/
theorem toList_toString_int (n : Int) :
    (toString n).toList = if n < 0 then '-' :: Nat.toDigits 10 n.natAbs
      else Nat.toDigits 10 n.natAbs := by
  cases n with
  | ofNat m =>
    rw [if_neg (Int.not_lt.mpr (Int.natCast_nonneg m) : ¬ Int.ofNat m < 0)]
    exact Nat.toList_repr
  | negSucc m =>
    rw [if_pos (Int.negSucc_lt_zero m)]
    show ("-" ++ Nat.repr (m + 1)).toList = _
    rw [String.toList_append, Nat.toList_repr]
    rfl

/-- The digits of a number begin with one. -/
theorem exists_toDigits (n : Nat) :
    ∃ c cs, Nat.toDigits 10 n = c :: cs ∧ c.isDigit = true := by
  obtain ⟨c, cs, hcs⟩ := List.exists_cons_of_ne_nil (Nat.toDigits_ne_nil (n := n) (b := 10))
  have hmem : c ∈ Nat.toDigits 10 n := hcs ▸ List.mem_cons_self
  exact ⟨c, cs, hcs, Nat.isDigit_of_mem_toDigits (by omega) (Nat.le_refl 10) hmem⟩

/-- The first character of a text is no blank and closes nothing. -/
def Opens (c : Char) : Prop := Doc.isSpace (some c) = false ∧ c ≠ ']'

theorem opens_of_isDigit {c : Char} (h : c.isDigit = true) : Opens c := by
  refine ⟨?_, ?_⟩
  · rw [Doc.isSpace.eq_def]
    split
    all_goals first
      | rfl
      | rename_i heq
        cases heq
        exact absurd h (by decide)
  · rintro rfl
    exact absurd h (by decide)

/-- Every integral value has a text, and its first character opens it. -/
theorem chars_opens {j : Json} (h : j.integral = true) :
    ∃ c cs, chars j = c :: cs ∧ Opens c := by
  cases j with
  | null => exact ⟨_, _, rfl, rfl, by decide⟩
  | bool b => cases b <;> exact ⟨_, _, rfl, rfl, by decide⟩
  | str s => exact ⟨_, _, rfl, rfl, by decide⟩
  | arr xs => cases xs <;> exact ⟨_, _, rfl, rfl, by decide⟩
  | obj fs => cases fs <;> exact ⟨_, _, rfl, rfl, by decide⟩
  | num n =>
    cases n with
    | float x => cases h
    | int n =>
      rw [chars, numberText, toList_toString_int]
      split
      · exact ⟨_, _, rfl, rfl, by decide⟩
      · obtain ⟨c, cs, hcs, hdigit⟩ := exists_toDigits n.natAbs
        exact ⟨c, cs, hcs, opens_of_isDigit hdigit⟩

theorem length_chars_pos {j : Json} (h : j.integral = true) : 0 < (chars j).length := by
  obtain ⟨c, cs, hcs, -⟩ := chars_opens h
  rw [hcs]
  exact Nat.succ_pos _

theorem length_itemChars_pos (xs : List Json) : 0 < (itemChars xs).length := by
  cases xs <;> exact Nat.succ_pos _

theorem length_fieldChars_pos (fs : List (String × Json)) : 0 < (fieldChars fs).length := by
  cases fs <;> exact Nat.succ_pos _

end Json

namespace Doc

variable {rest : Input}

theorem skipSpace_cons {c : Char} (h : isSpace (some c) = false) :
    skipSpace (some c :: rest) = some c :: rest := by
  rw [skipSpace, List.dropWhile_cons, h]
  rfl

theorem follows_itemChars (xs : List Json) :
    Follows ((Json.itemChars xs).map some ++ rest) := by
  cases xs with
  | nil => exact Or.inr (Or.inl rfl)
  | cons x xs => exact Or.inl rfl

theorem follows_fieldChars (fs : List (String × Json)) :
    Follows ((Json.fieldChars fs).map some ++ rest) := by
  cases fs with
  | nil => exact Or.inr (Or.inr rfl)
  | cons f fs => exact Or.inl rfl

/-- What begins with a digit is a number. -/
theorem value_of_isDigit {c : Char} (fuel : Nat) (h : c.isDigit = true) :
    value (fuel + 1) (some c :: rest) = number false (some c :: rest) := by
  rw [value, skipSpace_cons (Json.opens_of_isDigit h).1]
  split
  case h_8 => rfl
  all_goals
    rename_i heq
    cases heq
    exact absurd h (by decide)

theorem value_minus (fuel : Nat) : value (fuel + 1) (some '-' :: rest) = number true rest := by
  rw [value, skipSpace_cons rfl]
  rfl

/-- **An integer is read as itself.** -/
theorem value_int {n : Int} (fuel : Nat) (h : (Json.int n).integral = true) (hrest : Follows rest) :
    value (fuel + 1) ((toString n).toList.map some ++ rest) =
      some (.num (some (.int n)), rest) := by
  obtain ⟨hlow, hhigh⟩ := Bool.and_eq_true_iff.mp h
  have hlow : -(Nat.pow 2 63 : Int) ≤ n := of_decide_eq_true hlow
  have hhigh : n < Nat.pow 2 64 := of_decide_eq_true hhigh
  rw [Json.toList_toString_int]
  split
  · rename_i hneg
    rw [List.map_cons, List.cons_append, value_minus, number_digits true n.natAbs hrest,
      numberOf_int true n.natAbs ⟨by omega, by omega⟩]
    have habs : -(n.natAbs : Int) = n := by omega
    simp only [if_true, habs]
  · rename_i hnonneg
    obtain ⟨c, cs, hcs, hdigit⟩ := Json.exists_toDigits n.natAbs
    have hvalue : value (fuel + 1) ((Nat.toDigits 10 n.natAbs).map some ++ rest) =
        number false ((Nat.toDigits 10 n.natAbs).map some ++ rest) := by
      rw [hcs]
      exact value_of_isDigit fuel hdigit
    have hlt : n.natAbs < Nat.pow 2 64 := by omega
    rw [hvalue, number_digits false n.natAbs hrest, numberOf_int false n.natAbs hlt]
    have habs : (n.natAbs : Int) = n := by omega
    simp only [Bool.false_eq_true, if_false, habs]

/-! ## Arrays and objects -/

section

variable {fuel : Nat} {cs : Input} {item : Doc}

/-- A list ends at once, or holds an item. -/
theorem value_arr (cs : Input) : value (fuel + 1) (some '[' :: cs) =
    match skipSpace cs with
    | some ']' :: rest => some (.arr [], rest)
    | rest => items fuel [] rest := by
  rw [value, skipSpace_cons rfl]
  rfl

theorem value_items {x : Json} (h : x.integral = true) :
    value (fuel + 1) (some '[' :: ((Json.chars x).map some ++ rest)) =
      items fuel [] ((Json.chars x).map some ++ rest) := by
  -- no value starts with the mark a list ends with
  obtain ⟨c, cs, hcs, hspace, hclose⟩ := Json.chars_opens h
  rw [hcs, List.map_cons, List.cons_append, value_arr, skipSpace_cons hspace]
  split
  · rename_i heq
    cases heq
    exact absurd rfl hclose
  · rfl

theorem value_fields (key : String) :
    value (fuel + 1) (some '\x7b' :: ((Json.quoted key).map some ++ rest)) =
      fields fuel [] ((Json.quoted key).map some ++ rest) := by
  rw [value, skipSpace_cons rfl]
  rfl

theorem items_comma {read : List Doc} (h : value fuel cs = some (item, some ',' :: rest)) :
    items (fuel + 1) read cs = items fuel (item :: read) rest := by
  rw [items, h]
  rfl

theorem items_close {read : List Doc} (h : value fuel cs = some (item, some ']' :: rest)) :
    items (fuel + 1) read cs = some (.arr (item :: read).reverse, rest) := by
  rw [items, h]
  rfl

/-- A field is its name and what follows the colon. -/
theorem fields_name (read : List (Option String × Doc)) (key : String) (cs : Input) :
    fields (fuel + 1) read ((Json.quoted key).map some ++ some ':' :: cs) =
      match value fuel cs with
      | none => none
      | some (item, after) =>
        match skipSpace after with
        | some ',' :: rest => fields fuel ((some key, item) :: read) rest
        | some '\x7d' :: rest => some (.obj ((some key, item) :: read).reverse, rest)
        | _ => none := by
  rw [fields, Json.quoted, List.map_cons, List.cons_append, skipSpace_cons rfl]
  simp only [string_quoted]
  rw [skipSpace_cons rfl]
  rfl

theorem fields_comma {read : List (Option String × Doc)} (key : String)
    (h : value fuel cs = some (item, some ',' :: rest)) :
    fields (fuel + 1) read ((Json.quoted key).map some ++ some ':' :: cs) =
      fields fuel ((some key, item) :: read) rest := by
  rw [fields_name, h]
  rfl

theorem fields_close {read : List (Option String × Doc)} (key : String)
    (h : value fuel cs = some (item, some '\x7d' :: rest)) :
    fields (fuel + 1) read ((Json.quoted key).map some ++ some ':' :: cs) =
      some (.obj ((some key, item) :: read).reverse, rest) := by
  rw [fields_name, h]
  rfl

end

-- on the value, its items and its fields together; the fuel is counted
-- against the characters still to be read
mutual

/-- **What is written is read, and what follows it is left.** -/
theorem value_chars : (j : Json) → j.integral = true → ∀ {fuel : Nat} {rest : Input},
    (Json.chars j).length ≤ fuel → Follows rest →
      value fuel ((Json.chars j).map some ++ rest) = some (ofJson j, rest)
  | j, h, 0, _, hfuel, _ => by
    have hpos := Json.length_chars_pos h
    omega
  | .null, _, _ + 1, _, _, _ | .bool true, _, _ + 1, _, _, _ | .bool false, _, _ + 1, _, _, _
  | .arr [], _, _ + 1, _, _, _ | .obj [], _, _ + 1, _, _, _ => rfl
  | .num (.int n), h, fuel + 1, _, _, hrest => value_int fuel h hrest
  | .str s, _, fuel + 1, rest, _, _ => by
    rw [Json.chars, Json.quoted, List.map_cons, List.cons_append, value, skipSpace_cons rfl]
    simp only [string_quoted, Option.map_some]
    rfl
  | .arr (x :: xs), h, fuel + 1, rest, hfuel, _ => by
    obtain ⟨hx, hxs⟩ := Bool.and_eq_true_iff.mp h
    rw [Json.chars, List.length_cons, List.length_append] at hfuel
    have hpos := Json.length_chars_pos hx
    have hmore := Json.length_itemChars_pos xs
    obtain ⟨fuel, rfl⟩ : ∃ f, fuel = f + 1 := ⟨fuel - 1, by omega⟩
    have hitem : value fuel ((Json.chars x).map some ++ ((Json.itemChars xs).map some ++ rest)) =
        some (ofJson x, (Json.itemChars xs).map some ++ rest) :=
      value_chars x hx (by omega) (follows_itemChars xs)
    have htext : (Json.chars (.arr (x :: xs))).map some ++ rest =
        some '[' :: ((Json.chars x).map some ++ ((Json.itemChars xs).map some ++ rest)) := by
      simp [Json.chars]
    rw [htext, value_items hx, items_itemChars xs hxs (by omega) hitem]
    rfl
  | .obj ((k, v) :: fs), h, fuel + 1, rest, hfuel, _ => by
    obtain ⟨hv, hfs⟩ := Bool.and_eq_true_iff.mp h
    rw [Json.chars, List.length_cons, List.length_append, List.length_cons,
      List.length_append] at hfuel
    have hmore := Json.length_fieldChars_pos fs
    obtain ⟨fuel, rfl⟩ : ∃ f, fuel = f + 1 := ⟨fuel - 1, by omega⟩
    have hitem : value fuel ((Json.chars v).map some ++ ((Json.fieldChars fs).map some ++ rest)) =
        some (ofJson v, (Json.fieldChars fs).map some ++ rest) :=
      value_chars v hv (by omega) (follows_fieldChars fs)
    have htext : (Json.chars (.obj ((k, v) :: fs))).map some ++ rest = some '\x7b' ::
        ((Json.quoted k).map some ++
          some ':' :: ((Json.chars v).map some ++ ((Json.fieldChars fs).map some ++ rest))) := by
      simp [Json.chars]
    rw [htext, value_fields, fields_fieldChars fs hfs k (by omega) hitem]
    rfl

theorem items_itemChars : (xs : List Json) → Json.integralItems xs = true →
    ∀ {fuel : Nat} {cs rest : Input} {read : List Doc} {item : Doc},
      (Json.itemChars xs).length ≤ fuel →
      value fuel cs = some (item, (Json.itemChars xs).map some ++ rest) →
        items (fuel + 1) read cs = some (.arr (read.reverse ++ item :: ofItems xs), rest)
  | [], _, fuel, cs, rest, read, item, _, hitem => by
    rw [items_close hitem, List.reverse_cons]
    rfl
  | x :: xs, h, fuel, cs, rest, read, item, hfuel, hitem => by
    obtain ⟨hx, hxs⟩ := Bool.and_eq_true_iff.mp h
    rw [Json.itemChars, List.length_cons, List.length_append] at hfuel
    obtain ⟨fuel, rfl⟩ : ∃ f, fuel = f + 1 := ⟨fuel - 1, by omega⟩
    have hnext : value fuel ((Json.chars x).map some ++ ((Json.itemChars xs).map some ++ rest)) =
        some (ofJson x, (Json.itemChars xs).map some ++ rest) :=
      value_chars x hx (by omega) (follows_itemChars xs)
    have htext : (Json.itemChars (x :: xs)).map some ++ rest =
        some ',' :: ((Json.chars x).map some ++ ((Json.itemChars xs).map some ++ rest)) := by
      simp [Json.itemChars]
    rw [htext] at hitem
    rw [items_comma hitem, items_itemChars xs hxs (by omega) hnext, List.reverse_cons,
      List.append_assoc]
    rfl

theorem fields_fieldChars : (fs : List (String × Json)) → Json.integralFields fs = true →
    ∀ {fuel : Nat} {cs rest : Input} {read : List (Option String × Doc)} {item : Doc}
      (key : String), (Json.fieldChars fs).length ≤ fuel →
      value fuel cs = some (item, (Json.fieldChars fs).map some ++ rest) →
        fields (fuel + 1) read ((Json.quoted key).map some ++ some ':' :: cs) =
          some (.obj (read.reverse ++ (some key, item) :: ofFields fs), rest)
  | [], _, fuel, cs, rest, read, item, key, _, hitem => by
    rw [fields_close key hitem, List.reverse_cons]
    rfl
  | (k, v) :: fs, h, fuel, cs, rest, read, item, key, hfuel, hitem => by
    obtain ⟨hv, hfs⟩ := Bool.and_eq_true_iff.mp h
    rw [Json.fieldChars, List.length_cons, List.length_append, List.length_cons,
      List.length_append] at hfuel
    obtain ⟨fuel, rfl⟩ : ∃ f, fuel = f + 1 := ⟨fuel - 1, by omega⟩
    have hnext : value fuel ((Json.chars v).map some ++ ((Json.fieldChars fs).map some ++ rest)) =
        some (ofJson v, (Json.fieldChars fs).map some ++ rest) :=
      value_chars v hv (by omega) (follows_fieldChars fs)
    have htext : (Json.fieldChars ((k, v) :: fs)).map some ++ rest = some ',' ::
        ((Json.quoted k).map some ++
          some ':' :: ((Json.chars v).map some ++ ((Json.fieldChars fs).map some ++ rest))) := by
      simp [Json.fieldChars]
    rw [htext] at hitem
    rw [fields_comma key hitem, fields_fieldChars fs hfs k (by omega) hnext, List.reverse_cons,
      List.append_assoc]
    rfl

end

/-- **The text of a value is read as the document it is.** -/
theorem ofString?_compact {j : Json} (h : j.integral = true) :
    ofString? j.compact = some (ofJson j) := by
  have hread : value (2 * ((Json.chars j).map some).length + 2) ((Json.chars j).map some) =
      some (ofJson j, []) := by
    have hfuel : (Json.chars j).length ≤ 2 * ((Json.chars j).map some).length + 2 := by
      rw [List.length_map]
      omega
    have hall : value _ ((Json.chars j).map some ++ []) = some (ofJson j, []) :=
      value_chars j h hfuel trivial
    rwa [List.append_nil] at hall
  rw [ofString?, Json.compact, String.toList_ofList, parse, hread]
  rfl

end Doc

/-- **The text of a value is read as the value**, if it nests no deeper than
the reader goes. -/
theorem Json.ofString?_compact {j : Json} (hint : j.integral = true) (hord : j.ordered = true)
    (hdepth : j.depth < Doc.nestingLimit) : Json.ofString? j.compact = some j := by
  have hfits : Doc.Fits (some Doc.nestingLimit) j.depth := Doc.fits_some (by omega)
  rw [Json.ofString?, Doc.ofString?_compact hint, Option.bind_some,
    Doc.toJson?_ofJson j hord hfits]

end Turnstile
