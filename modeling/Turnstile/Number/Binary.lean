/-!
# Binary floating-point values

Values of the two common binary formats as bit patterns, with the few
operations that reading and writing numbers needs. All arithmetic is exact
on natural numbers and rounds once, to the nearest value and to the even
one of two equally near.
-/

namespace Turnstile

/-- A binary format: significant bits (the implicit one included) and
exponent bits. -/
structure BinaryFormat where
  precision : Nat
  exponentBits : Nat
  deriving DecidableEq, Repr

namespace BinaryFormat

/-- Single precision. -/
def binary32 : BinaryFormat := ⟨24, 8⟩

/-- Double precision. -/
def binary64 : BinaryFormat := ⟨53, 11⟩

/-- Binades below one: minus the exponent of the smallest positive value. -/
def lowest (f : BinaryFormat) : Nat := Nat.pow 2 (f.exponentBits - 1) - 1 + f.precision - 2

/-- The pattern of infinity, without sign. -/
def infinity (f : BinaryFormat) : Nat := (Nat.pow 2 f.exponentBits - 1) * Nat.pow 2 (f.precision - 1)

/-- The value of a finite pattern without sign: `m * 2 ^ (e - lowest)`. -/
def parts (f : BinaryFormat) (magnitude : Nat) : Nat × Nat :=
  let unit := Nat.pow 2 (f.precision - 1)
  let fraction := magnitude % unit
  match magnitude / unit with
  | 0 => (fraction, 0)
  | e + 1 => (fraction + unit, e)

/-- `num / den` rounded to a natural number, a half going to the even one. -/
def roundDiv (num den : Nat) : Nat :=
  let q := num / den
  let twice := 2 * (num % den)
  if twice < den then q
  else if twice = den then q + q % 2
  else q + 1

/-- The pattern nearest to `num / den`, infinity beyond the largest. -/
def ofRatio (f : BinaryFormat) (num den : Nat) : Nat :=
  if num = 0 then 0
  else
    -- `num * 2 ^ lowest / den` counts smallest values; drop bits above the precision.
    let scaled := num * Nat.pow 2 f.lowest
    let drop := (scaled / den).log2 + 1 - f.precision
    let m := roundDiv scaled (den * Nat.pow 2 drop)
    let pattern := if drop = 0 then m else drop * Nat.pow 2 (f.precision - 1) + m
    if f.infinity ≤ pattern then f.infinity else pattern

/-- The exact value of a finite pattern as a fraction. -/
def toRatio (f : BinaryFormat) (magnitude : Nat) : Nat × Nat :=
  let (m, e) := f.parts magnitude
  (m * Nat.pow 2 e, Nat.pow 2 f.lowest)

end BinaryFormat

/-- A value of a format: sign and magnitude pattern. -/
structure Binary where
  negative : Bool
  magnitude : Nat
  deriving DecidableEq, Repr, Inhabited

namespace Binary

/-- Positive zero. -/
def zero : Binary := ⟨false, 0⟩

/-- The value is neither infinite nor undefined. -/
def isFinite (f : BinaryFormat) (x : Binary) : Bool := x.magnitude < f.infinity

/-- The nearest value to an integer. -/
def ofInt (f : BinaryFormat) (n : Int) : Binary := ⟨n < 0, f.ofRatio n.natAbs 1⟩

/-- A finite or infinite value of one format in another. -/
def convert (source target : BinaryFormat) (x : Binary) : Binary :=
  if x.isFinite source then
    let (num, den) := source.toRatio x.magnitude
    ⟨x.negative, target.ofRatio num den⟩
  else ⟨x.negative, target.infinity⟩

/-- The value is a whole number, and which. -/
def toInt? (f : BinaryFormat) (x : Binary) : Option Int :=
  if x.isFinite f then
    let (num, den) := f.toRatio x.magnitude
    if num % den = 0 then
      some (if x.negative then -((num / den : Nat) : Int) else ((num / den : Nat) : Int))
    else none
  else none

end Binary

end Turnstile
