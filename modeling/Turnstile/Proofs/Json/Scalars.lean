import Turnstile.Json.Doc
import Turnstile.Json.Printer
import Mathlib.Data.List.Basic
/-!
# Numbers and strings — what is written is read

The digits of an integer are read as the digits they are, up to whatever
may follow a value (`Doc.number_digits`), and spell that integer; where it
fits 64 bits it is read as an integer again (`Doc.numberOf_int`). A string
is read a character at a time: whether escaped or not, a character comes
back as itself and leaves the rest of the text as it was
(`Doc.string_escapeChar`).
-/

namespace Turnstile

/-! ## Digits -/

/-- The leading digit of a positive number is not nought. -/
theorem exists_lead_toDigits {n : Nat} (h : 0 < n) :
    ∃ d ds, Nat.toDigits 10 n = Nat.digitChar d :: ds ∧ 0 < d ∧ d < 10 := by
  -- on the number, without its last digit
  induction n using Nat.strongRecOn with
  | ind n ih =>
    rcases Nat.lt_or_ge n 10 with hlt | hge
    · exact ⟨n, [], Nat.toDigits_of_lt_base hlt, h, hlt⟩
    · obtain ⟨d, ds, hds, hpos, hten⟩ := ih (n / 10) (by omega) (by omega)
      refine ⟨d, ds ++ [Nat.digitChar (n % 10)], ?_, hpos, hten⟩
      rw [Nat.toDigits_of_base_le (by omega) hge, hds, List.cons_append]

namespace Literal

/-- Digit characters spell the number they are the digits of. -/
theorem spell_toDigits (n : Nat) : spell ((Nat.toDigits 10 n).map fun c => c.toNat - 48) = n := by
  have hspell : spell ((Nat.toDigits 10 n).map fun c => c.toNat - 48) =
      Nat.ofDigitChars 10 (Nat.toDigits 10 n) 0 := by
    rw [spell, List.foldl_map, Nat.ofDigitChars]
    simp only [Nat.mul_comm]
    rfl
  rw [hspell, Nat.ofDigitChars_ten_toDigits]

end Literal

namespace Doc

/-- What may follow a value that was written: nothing, a comma or a closing
mark. -/
def Follows : Input → Prop
  | [] => True
  | x :: _ => x = some ',' ∨ x = some ']' ∨ x = some '\x7d'

variable {rest : Input}

/-- Nothing of that goes on with a number. -/
theorem Follows.digits (h : Follows rest) : digits rest = ([], rest) := by
  cases rest with
  | nil => rfl
  | cons x rest => rcases h with rfl | rfl | rfl <;> rfl

theorem Follows.fraction? (h : Follows rest) : fraction? rest = some (none, rest) := by
  cases rest with
  | nil => rfl
  | cons x rest => rcases h with rfl | rfl | rfl <;> rfl

theorem Follows.exponent? (h : Follows rest) : exponent? rest = some (none, rest) := by
  cases rest with
  | nil => rfl
  | cons x rest => rcases h with rfl | rfl | rfl <;> rfl

theorem digits_append {cs : List Char} (hcs : ∀ c ∈ cs, c.isDigit = true) (h : Follows rest) :
    digits (cs.map some ++ rest) = (cs.map fun c => c.toNat - 48, rest) := by
  induction cs with
  | nil => exact h.digits
  | cons c cs ih =>
    obtain ⟨hc, hcs⟩ := List.forall_mem_cons.mp hcs
    have hdigit : digit? (some c) = some (c.toNat - 48) := by rw [digit?, if_pos hc]
    rw [List.map_cons, List.cons_append, Doc.digits, hdigit]
    simp only [ih hcs]
    rfl

/-- Digits without a leading nought are a number. -/
theorem number_of_digits {cs : Input} {whole : List Nat} (negative : Bool)
    (hread : digits cs = (whole, rest)) (hne : whole ≠ [])
    (hlead : ∀ d ds, whole ≠ 0 :: d :: ds) (h : Follows rest) :
    number negative cs = some (.num (numberOf ⟨negative, whole, none, none⟩), rest) := by
  rw [number, hread]
  split
  case h_1 heq => exact absurd (Prod.mk.inj heq).1 hne
  case h_2 heq => exact absurd (Prod.mk.inj heq).1 (hlead _ _)
  case h_3 heq =>
    cases heq
    rw [h.fraction?]
    show (exponent? rest).bind _ = _
    rw [h.exponent?]
    rfl

/-- **The digits of a number are read whole.** -/
theorem number_digits (negative : Bool) (n : Nat) (h : Follows rest) :
    number negative ((Nat.toDigits 10 n).map some ++ rest) =
      some (.num (numberOf
        ⟨negative, (Nat.toDigits 10 n).map fun c => c.toNat - 48, none, none⟩), rest) := by
  have hdigits : ∀ c ∈ Nat.toDigits 10 n, c.isDigit = true := fun c hc =>
    Nat.isDigit_of_mem_toDigits (by omega) (Nat.le_refl 10) hc
  refine number_of_digits negative (digits_append hdigits h) (by simp) (fun d ds heq => ?_) h
  rcases Nat.eq_zero_or_pos n with rfl | hpos
  · rw [Nat.toDigits_zero] at heq
    cases heq
  · obtain ⟨lead, more, hlead, hne, hten⟩ := exists_lead_toDigits hpos
    have hvalue : (Nat.digitChar lead).toNat - 48 = lead :=
      Nat.toNat_digitChar_sub_48_of_lt_ten hten
    rw [hlead, List.map_cons, hvalue] at heq
    have hzero := (List.cons.inj heq).1
    omega

/-- **An integer within 64 bits is read as itself.** -/
theorem numberOf_int (negative : Bool) (n : Nat)
    (h : if negative then n ≠ 0 ∧ n ≤ Nat.pow 2 63 else n < Nat.pow 2 64) :
    numberOf ⟨negative, (Nat.toDigits 10 n).map fun c => c.toNat - 48, none, none⟩ =
      some (.int (if negative then -(n : Int) else n)) := by
  have hint : Literal.toInt?
      ⟨negative, (Nat.toDigits 10 n).map fun c => c.toNat - 48, none, none⟩ =
      some (if negative then -(n : Int) else n) := by
    rw [Literal.toInt?, if_neg (by simp)]
    simp only [Literal.spell_toDigits]
    cases negative with
    | true => exact if_pos h
    | false =>
      have hle : n ≤ Literal.keepLimit := Nat.le_pred_of_lt h
      exact if_pos hle
  rw [numberOf, hint]

/-! ## Strings -/

/-- A string in which no surrogate waits. -/
def Partial.Settled (p : Partial) : Prop := p.lead = none ∧ p.usable = true

theorem Partial.Settled.push {p : Partial} (h : p.Settled) (c : Char) : (p.push c).Settled := by
  obtain ⟨hlead, husable⟩ := h
  exact ⟨rfl, by simp [Partial.push, hlead, husable]⟩

theorem hex4?_hexDigit {n : Nat} (h : n < 32) :
    hex4? (some '0') (some '0') (some (Json.hexDigit (n / 16))) (some (Json.hexDigit (n % 16))) =
      some n := by
  have hall : ∀ k : Fin 32, hex4? (some '0') (some '0') (some (Json.hexDigit (k.val / 16)))
      (some (Json.hexDigit (k.val % 16))) = some k.val := by
    decide
  exact hall ⟨n, h⟩

/-- A character that stands for itself in a string. -/
theorem string_plain {p : Partial} {c : Char} (hquote : c ≠ '"') (hescape : c ≠ '\\')
    (hcontrol : ¬ c.toNat < 32) : string p (some c :: rest) = string (p.push c) rest := by
  -- the cases are those of the reader; this is the last but one
  rw [string.eq_def]
  split
  case h_1 heq => cases heq
  case h_2 heq =>
    cases heq
    exact absurd rfl hquote
  case h_6 heq =>
    cases heq
    exact if_neg hcontrol
  case h_7 heq => cases heq
  all_goals
    rename_i heq
    cases heq
    exact absurd rfl hescape

/-- **A character that was written is read**, and what follows it is not
touched. -/
theorem string_escapeChar (p : Partial) (c : Char) :
    string p ((Json.escapeChar c).map some ++ rest) = string (p.push c) rest := by
  rw [Json.escapeChar]
  -- seven characters have an escape of their own
  iterate 7
    split
    · subst_vars
      rfl
  split
  · rename_i hcontrol
    have hunit : p.pushUnit c.toNat = p.push c := by
      rw [Partial.pushUnit, if_neg (by omega), if_neg (by omega), Char.ofNat_toNat]
    simp only [List.map_cons, List.map_nil, List.cons_append, List.nil_append]
    rw [string, hex4?_hexDigit hcontrol]
    simp only [hunit]
  · rename_i hquote hescape _ _ _ _ _ hcontrol
    exact string_plain hquote hescape hcontrol

theorem string_quotation (p : Partial) (rest : Input) :
    string p (some '"' :: rest) = some (p.finish, rest) := by
  rw [string]

/-- So are the characters of a text, up to its closing quotation mark. -/
theorem string_escaped {p : Partial} (hp : p.Settled) (cs : List Char) :
    string p ((cs.flatMap Json.escapeChar).map some ++ some '"' :: rest) =
      some (some (String.ofList (p.read.reverse ++ cs)), rest) := by
  induction cs generalizing p with
  | nil =>
    have hfinish : p.finish = some (String.ofList p.read.reverse) := by
      rw [Partial.finish, hp.1, hp.2]
      rfl
    rw [List.flatMap_nil, List.map_nil, List.nil_append, string_quotation, hfinish, List.append_nil]
  | cons c cs ih =>
    rw [List.flatMap_cons, List.map_append, List.append_assoc, string_escapeChar,
      ih (hp.push c), Partial.push, List.reverse_cons, List.append_assoc, List.singleton_append]

/-- **A string that was written is read.** -/
theorem string_quoted (s : String) (rest : Input) :
    string .start ((s.toList.flatMap Json.escapeChar ++ ['"']).map some ++ rest) =
      some (some s, rest) := by
  have hread : string .start ((s.toList.flatMap Json.escapeChar).map some ++ some '"' :: rest) =
      some (some (String.ofList (Partial.start.read.reverse ++ s.toList)), rest) :=
    string_escaped ⟨rfl, rfl⟩ s.toList
  rw [List.map_append, List.append_assoc]
  exact hread.trans (by rw [Partial.start, List.reverse_nil, List.nil_append, String.ofList_toList])

end Doc

end Turnstile
