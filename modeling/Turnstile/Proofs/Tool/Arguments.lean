import Turnstile.Tool.Assembly
/-!
# Argument text

Blank text is no document, so argument text that is one stands for its
value (`parseArguments_eq`).
-/

namespace Turnstile

namespace Doc

/-- Only blanks, and nothing ill-formed. -/
def Blank (cs : Input) : Prop := ∀ x ∈ cs, ∃ c, x = some c ∧ Text.isBlank c = true

variable {cs : Input}

theorem Blank.skipSpace (h : Blank cs) : Blank (skipSpace cs) :=
  fun x hx => h x ((List.dropWhile_suffix _).mem hx)

theorem Blank.head {c : Char} {rest : Input} (h : Blank (some c :: rest)) :
    Text.isBlank c = true := by
  obtain ⟨c', heq, hblank⟩ := h _ List.mem_cons_self
  cases heq
  exact hblank

/-- A blank is no digit. -/
theorem digit?_of_isBlank {c : Char} (h : Text.isBlank c = true) : digit? (some c) = none := by
  have hdigit : c.isDigit = false := by
    refine Bool.eq_false_iff.mpr fun hdigit => ?_
    simp only [Char.isDigit, Bool.and_eq_true, decide_eq_true_eq, ge_iff_le,
      UInt32.le_iff_toNat_le] at hdigit
    have hlow : 48 ≤ c.val.toNat := hdigit.1
    have hhigh : c.val.toNat ≤ 57 := hdigit.2
    simp only [Text.isBlank, Char.toNat, Bool.or_eq_true, Bool.and_eq_true, decide_eq_true_eq,
      beq_iff_eq] at h
    omega
  rw [digit?, hdigit]
  rfl

theorem Blank.number (h : Blank cs) (negative : Bool) : number negative cs = none := by
  have hdigits : (digits cs).1 = [] := by
    cases cs with
    | nil => rfl
    | cons x rest =>
      obtain ⟨c, rfl, hblank⟩ := h x List.mem_cons_self
      rw [digits, digit?_of_isBlank hblank]
  cases hread : digits cs with
  | mk whole rest =>
    rw [hread] at hdigits
    change whole = [] at hdigits
    rw [Doc.number, hread, hdigits]

/-- **Blanks are no value.** -/
theorem Blank.value (h : Blank cs) (fuel : Nat) : value fuel cs = none := by
  cases fuel with
  | zero => rw [Doc.value]
  | succ fuel =>
    have hrest := h.skipSpace
    rw [Doc.value]
    generalize Doc.skipSpace cs = rest at hrest ⊢
    -- whatever a value begins with is not blank
    split
    case h_8 => exact hrest.number false
    all_goals exact absurd hrest.head (by decide)

end Doc

theorem Doc.ofString?_of_allBlank {text : String} (h : Text.allBlank text = true) :
    Doc.ofString? text = none := by
  have hblank : Doc.Blank (text.toList.map some) := by
    intro x hx
    obtain ⟨c, hc, rfl⟩ := List.mem_map.mp hx
    exact ⟨c, rfl, List.all_eq_true.mp h c hc⟩
  rw [Doc.ofString?, Doc.parse, hblank.value]

/-- **Text of a value stands for it.** -/
theorem parseArguments_eq {text : String} {value : Json} (h : Json.ofString? text = some value) :
    parseArguments text = value := by
  have hblank : ¬ Text.allBlank text = true := by
    intro hblank
    rw [Json.ofString?, Doc.ofString?_of_allBlank hblank] at h
    cases h
  rw [parseArguments, if_neg hblank, h, Option.getD_some]

/-- What a call is given for its argument text: the value it is the text
of, and the empty object where that is `null` or there is none. -/
def inputOf (text : String) : Json :=
  match Json.ofString? text with
  | some value => if value.isNull then Json.empty else value
  | none => Json.empty

theorem ToolCall.make_parseArguments (id name text : String) :
    ToolCall.make id name (parseArguments text) = ⟨id, name, inputOf text⟩ := by
  rw [ToolCall.make, inputOf]
  cases hread : Json.ofString? text with
  | some value => rw [parseArguments_eq hread]
  | none =>
    have hempty : parseArguments text = Json.empty := by
      rw [parseArguments, hread]
      split <;> rfl
    rw [hempty]
    rfl

theorem inputOf_of_allBlank {text : String} (h : Text.allBlank text = true) :
    inputOf text = Json.empty := by
  rw [inputOf, Json.ofString?, Doc.ofString?_of_allBlank h]
  rfl

/-- No text stands for the empty object. -/
theorem parseArguments_empty : parseArguments "" = Json.empty := by
  rw [parseArguments, if_pos (by decide)]

end Turnstile
