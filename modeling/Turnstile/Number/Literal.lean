import Turnstile.Number.Binary
/-!
# Reading number literals

An integer literal that fits 64 bits is exact. Any other literal is
scaled: as many leading digits as fit 64 bits unsigned are kept as an
integer, brought to double precision, and multiplied or divided once by a
power of ten (more often only below the smallest power). This is nearest
for every short literal and can be off by a unit in the last place for a
long one.
-/

namespace Turnstile

/-- The digits of a number literal. -/
structure Literal where
  negative : Bool
  whole : List Nat
  /-- The digits after the point, if there is a point. -/
  fraction : Option (List Nat)
  /-- Sign (negative or not) and digits after the exponent mark. -/
  exponent : Option (Bool × List Nat)
  deriving Repr

namespace Literal

/-- The largest kept integer. -/
def keepLimit : Nat := Nat.pow 2 64 - 1

/-- Keep digits from the left while the integer fits; the rest is returned. -/
def keep (kept : Nat) : List Nat → Nat × List Nat
  | [] => (kept, [])
  | d :: ds => if keepLimit < kept * 10 + d then (kept, d :: ds) else keep (kept * 10 + d) ds

/-- The number the digits spell. -/
def spell (ds : List Nat) : Nat := ds.foldl (fun n d => n * 10 + d) 0

/-- A power of ten in double precision, as an exact fraction over one. -/
def powerOfTen (k : Nat) : Nat :=
  let (num, den) := BinaryFormat.binary64.toRatio (BinaryFormat.binary64.ofRatio (Nat.pow 10 k) 1)
  num / den

/-- The greatest power of ten below infinity. -/
def greatestPower : Nat := 308

/-- Divide by `10 ^ k`, at most `greatestPower` at a time. -/
def divide : Nat → Nat → Nat → Nat
  | 0, m, _ => m
  | fuel + 1, m, k =>
    let (num, den) := BinaryFormat.binary64.toRatio m
    if k ≤ greatestPower then BinaryFormat.binary64.ofRatio num (den * powerOfTen k)
    else if m = 0 then 0
    else
      divide fuel (BinaryFormat.binary64.ofRatio num (den * powerOfTen greatestPower))
        (k - greatestPower)

/-- The magnitude of `kept * 10 ^ exponent`, if it is finite. -/
def scale (kept : Nat) (exponent : Int) : Option Nat :=
  let m := BinaryFormat.binary64.ofRatio kept 1
  if 0 ≤ exponent then
    if exponent ≤ greatestPower then
      let (num, den) := BinaryFormat.binary64.toRatio m
      let r := BinaryFormat.binary64.ofRatio (num * powerOfTen exponent.toNat) den
      if r = BinaryFormat.binary64.infinity then none else some r
    else if kept = 0 then some 0
    else none
  else some (divide 4 m (-exponent).toNat)

/-- The greatest exponent that is counted. -/
def exponentLimit : Nat := Nat.pow 2 31 - 1

/-- The value as a double, if it is in range. -/
def toBinary? (l : Literal) : Option Binary :=
  let (kept, beyond) := keep 0 l.whole
  let (kept, used) :=
    match l.fraction with
    | none => (kept, 0)
    | some ds =>
      let (kept', rest) := keep kept ds
      (kept', ds.length - rest.length)
  let start : Int := beyond.length - used
  match l.exponent with
  | none => (scale kept start).map (⟨l.negative, ·⟩)
  | some (negative, ds) =>
    let e := spell ds
    if exponentLimit < e then
      if kept ≠ 0 ∧ !negative then none else some ⟨l.negative, 0⟩
    else (scale kept (if negative then start - e else start + e)).map (⟨l.negative, ·⟩)

/-- The integer a literal without point and exponent spells, where it fits:
unsigned 64 bits, or signed 64 bits below nought. -/
def toInt? (l : Literal) : Option Int :=
  if l.fraction.isSome ∨ l.exponent.isSome then none
  else
    let n := spell l.whole
    if l.negative then if n ≠ 0 ∧ n ≤ Nat.pow 2 63 then some (-(n : Int)) else none
    else if n ≤ keepLimit then some n
    else none

end Literal

end Turnstile
