import Turnstile.Number.Binary
/-!
# Shortest decimal text

The decimal text of a binary value: the fewest significant digits that are
read back as the same value and, of those, the nearest.
-/

namespace Turnstile

namespace Shortest

/-- Digits `d` and an exponent `e`: the number `d * 10 ^ e`. -/
structure Decimal where
  digits : Nat
  exponent : Int
  deriving DecidableEq, Repr

/-- The interval of reals that round to a positive finite pattern, as
fractions over one denominator, with the value itself: `(low, value, high,
den)`, ends included iff the significand is even. -/
def interval (f : BinaryFormat) (magnitude : Nat) : Nat × Nat × Nat × Nat :=
  let (m, e) := f.parts magnitude
  let unit := Nat.pow 2 e
  -- Quarters of a unit, since below a power of two the gap is half as wide.
  let narrow := m = Nat.pow 2 (f.precision - 1) ∧ 0 < e
  let low := if narrow then 4 * m - 1 else 4 * m - 2
  (low * unit, 4 * m * unit, (4 * m + 2) * unit, 4 * Nat.pow 2 f.lowest)

/-- `num / den` in units of `10 ^ e`, as a fraction. -/
def inUnits (num den : Nat) (e : Int) : Nat × Nat :=
  if 0 ≤ e then (num, den * Nat.pow 10 e.toNat) else (num * Nat.pow 10 (-e).toNat, den)

/-- A grid point `d * 10 ^ e` inside the interval, the nearer of the two
neighbours of the value if both are. -/
def onGrid (f : BinaryFormat) (magnitude : Nat) (e : Int) : Option Nat :=
  let (low, value, high, den) := interval f magnitude
  let even := (f.parts magnitude).1 % 2 = 0
  let (v, d) := inUnits value den e
  let (l, _) := inUnits low den e
  let (h, _) := inUnits high den e
  let inside (k : Nat) : Bool :=
    if even then l ≤ k * d && k * d ≤ h else l < k * d && k * d < h
  let below := v / d
  let above := below + 1
  let belowIn := below != 0 && inside below
  let aboveIn := inside above
  if belowIn && aboveIn then
    let under := v - below * d
    let excess := above * d - v
    if under < excess then some below
    else if excess < under then some above
    else some (if below % 2 = 0 then below else above)
  else if belowIn then some below
  else if aboveIn then some above
  else none

/-- Number of decimal digits of `n`. -/
def digitCount (n : Nat) : Nat := (Nat.toDigits 10 n).length

/-- The exponent `k` with `10 ^ (k - 1) ≤ value < 10 ^ k`. -/
def magnitudeTen (num den : Nat) : Int :=
  if den ≤ num then (digitCount (num / den) : Int)
  else
    -- value < 1: count the zeros after the point
    let q := den / num
    let k : Nat := digitCount q - 1
    if num * Nat.pow 10 k < den then -(k : Int) else 1 - (k : Int)

/-- Try grids from coarse to fine. -/
def search (f : BinaryFormat) (magnitude : Nat) (top : Int) : Nat → Nat → Decimal
  | 0, n => ⟨0, top - n⟩
  | fuel + 1, n =>
    match onGrid f magnitude (top - n) with
    | some d => ⟨d, top - n⟩
    | none => search f magnitude top fuel (n + 1)

/-- Remove trailing zeros; the fuel bounds their number. -/
def strip : Nat → Decimal → Decimal
  | 0, d => d
  | fuel + 1, d =>
    if d.digits ≠ 0 ∧ d.digits % 10 = 0 then strip fuel ⟨d.digits / 10, d.exponent + 1⟩ else d

/-- The shortest decimal of a positive finite pattern. -/
def decimal (f : BinaryFormat) (magnitude : Nat) : Decimal :=
  let (num, den) := f.toRatio magnitude
  strip 20 (search f magnitude (magnitudeTen num den) 20 0)

/-- How a decimal is laid out. -/
structure Layout where
  /-- Least decimal exponent (of the leading digit, counted from the point)
  that is written positionally. -/
  least : Int
  /-- Greatest such exponent. -/
  greatest : Int
  /-- Written for a whole number after its digits. -/
  wholeTail : String
  /-- Write `+` before a non-negative exponent. -/
  plusSign : Bool

/-- Zeros. -/
def zeros (n : Nat) : String := String.ofList (List.replicate n '0')

/-- Lay out a decimal. -/
def Layout.render (l : Layout) (d : Decimal) : String :=
  let ds := Nat.toDigits 10 d.digits
  let text := String.ofList ds
  -- The point stands `point` digits after the start of `ds`.
  let point : Int := ds.length + d.exponent
  if l.least ≤ point ∧ point ≤ l.greatest then
    if 0 ≤ d.exponent then text ++ zeros d.exponent.toNat ++ l.wholeTail
    else if 0 < point then
      String.ofList (ds.take point.toNat) ++ "." ++ String.ofList (ds.drop point.toNat)
    else "0." ++ zeros (-point).toNat ++ text
  else
    let mantissa :=
      match ds with
      | c :: c' :: rest => String.singleton c ++ "." ++ String.ofList (c' :: rest)
      | _ => text
    let e := point - 1
    mantissa ++ "e" ++ (if 0 ≤ e ∧ l.plusSign then "+" else "") ++ toString e

/-- The text of a finite value, with `zero` for the number nought. -/
def Layout.text (l : Layout) (f : BinaryFormat) (x : Binary) : String :=
  let body := if x.magnitude = 0 then "0" ++ l.wholeTail else l.render (decimal f x.magnitude)
  if x.negative then "-" ++ body else body

end Shortest

end Turnstile
