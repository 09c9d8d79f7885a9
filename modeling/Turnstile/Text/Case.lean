import Turnstile.Text.CaseTable
/-!
# Lower case

Two mappings: the ASCII one, which leaves every other character alone, and
the full one, in which the capital dotted i becomes two characters and the
capital sigma takes its final form at the end of a word.
-/

namespace Turnstile

namespace Text

/-- The ASCII capitals become small, all else stays. -/
def asciiLowerChar (c : Char) : Char :=
  if 'A' ≤ c ∧ c ≤ 'Z' then Char.ofNat (c.toNat + 32) else c

theorem toNat_ofNat {n : Nat} (h : n.isValidChar) : (Char.ofNat n).toNat = n := by
  rw [Char.ofNat, dif_pos h]
  rfl

/-- A text in ASCII lower case. -/
def asciiLower (s : String) : String := s.map asciiLowerChar

/-- The ASCII small letters become capitals, all else stays. -/
def asciiUpperChar (c : Char) : Char :=
  if 'a' ≤ c ∧ c ≤ 'z' then Char.ofNat (c.toNat - 32) else c

/-- A text in ASCII upper case. -/
def asciiUpper (s : String) : String := s.map asciiUpperChar

/-- The code point lies in one of the ranges. -/
def inRanges (table : List (Nat × Nat)) (n : Nat) : Bool :=
  table.any fun (lo, hi) => lo ≤ n && n ≤ hi

/-- The code point lies on the run. -/
def CaseRun.covers (run : CaseRun) (n : Nat) : Bool :=
  run.first ≤ n && n ≤ run.last && (n - run.first) % run.step == 0

/-- Where the run moves a code point. -/
def CaseRun.move (run : CaseRun) (n : Nat) : Nat :=
  if run.up then n + run.shift else n - run.shift

/-- The simple lower-case mapping. -/
def lowerChar (c : Char) : Char :=
  let n := c.toNat
  if n < 0x80 then asciiLowerChar c
  else
    match lowerRuns.find? (·.covers n) with
    | some run => Char.ofNat (run.move n)
    | none => c

/-- The property `Case_Ignorable`. -/
def isCaseIgnorable (c : Char) : Bool := inRanges caseIgnorableRanges c.toNat

/-- The property `Cased`, for characters that are not case-ignorable. -/
def isCased (c : Char) : Bool := inRanges casedRanges c.toNat

/-- After case-ignorable characters comes a cased one. -/
def reachesCased (cs : List Char) : Bool :=
  match cs.dropWhile isCaseIgnorable with
  | [] => false
  | c :: _ => isCased c

/-- What becomes of a character; `before` is what precedes it, last first,
and `after` what follows. -/
def lowerImage (before after : List Char) (c : Char) : List Char :=
  if c = 'Σ' then
    if reachesCased before && !reachesCased after then ['ς'] else ['σ']
  else if c = 'İ' then ['i', '\u0307']
  else [lowerChar c]

/-- Lower case of a list of characters; `before` is what precedes it, last
first. -/
def lowerList (before : List Char) : List Char → List Char
  | [] => []
  | c :: cs => lowerImage before cs c ++ lowerList (c :: before) cs

/-- A text in lower case. -/
def lower (s : String) : String := String.ofList (lowerList [] s.toList)

end Text

end Turnstile
