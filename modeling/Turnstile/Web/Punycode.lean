/-!
# Punycode — labels in ASCII letters

A label with characters beyond ASCII is written as its ASCII characters,
a hyphen, and the others as differences in a variable-length notation to
base 36 whose thresholds adapt to what was written before.
-/

namespace Turnstile

namespace Punycode

/-- The digit of a value below 36: letters, then figures. -/
def digitChar (d : Nat) : Char :=
  if d < 26 then Char.ofNat (0x61 + d) else Char.ofNat (0x30 + (d - 26))

/-- The value of a digit. -/
def digitValue (c : Char) : Option Nat :=
  let n := c.toNat
  if 0x61 ≤ n && n ≤ 0x7A then some (n - 0x61)
  else if 0x41 ≤ n && n ≤ 0x5A then some (n - 0x41)
  else if 0x30 ≤ n && n ≤ 0x39 then some (n - 0x30 + 26)
  else none

/-- The threshold at a position. -/
def threshold (k bias : Nat) : Nat :=
  if k ≤ bias then 1 else if bias + 26 ≤ k then 26 else k - bias

/-- Divide until the difference is small; the fuel bounds the divisions. -/
def shrink : Nat → Nat → Nat → Nat × Nat
  | 0, delta, k => (delta, k)
  | fuel + 1, delta, k => if 455 < delta then shrink fuel (delta / 35) (k + 36) else (delta, k)

/-- The bias after a difference was written. -/
def adapt (delta points : Nat) (first : Bool) : Nat :=
  let d := if first then delta / 700 else delta / 2
  let (d, k) := shrink 64 (d + d / points) 0
  k + 36 * d / (d + 38)

/-- A difference as digits; the fuel bounds their number. -/
def encodeDelta (bias : Nat) : Nat → Nat → Nat → List Char
  | 0, _, _ => []
  | fuel + 1, k, q =>
    let t := threshold k bias
    if q < t then [digitChar q]
    else digitChar (t + (q - t) % (36 - t)) :: encodeDelta bias fuel (k + 36) ((q - t) / (36 - t))

/-- The state of writing. -/
structure Writer where
  next : Nat
  delta : Nat
  bias : Nat
  handled : Nat
  written : List Char

/-- Write the occurrences of the code point `m` in a label. -/
def encodePoint (basic m : Nat) (w : Writer) (n : Nat) : Writer :=
  if n < m then { w with delta := w.delta + 1 }
  else if n = m then
    { w with
      written := w.written ++ encodeDelta w.bias 64 36 w.delta
      bias := adapt w.delta (w.handled + 1) (w.handled == basic)
      delta := 0
      handled := w.handled + 1 }
  else w

/-- Write code points in increasing order. -/
def encodePoints (basic : Nat) (label : List Nat) (w : Writer) : List Nat → Writer
  | [] => w
  | m :: rest =>
    let w := { w with delta := w.delta + (m - w.next) * (w.handled + 1) }
    let w := label.foldl (encodePoint basic m) w
    encodePoints basic label { w with delta := w.delta + 1, next := m + 1 } rest

/-- A label in ASCII. -/
def encode (label : List Char) : List Char :=
  let points := label.map Char.toNat
  let basic := label.filter fun c => c.toNat < 128
  let start := if basic.isEmpty then [] else basic ++ ['-']
  let others := ((points.filter (128 ≤ ·)).mergeSort (· ≤ ·)).eraseReps
  (encodePoints basic.length points ⟨128, 0, 72, basic.length, start⟩ others).written

/-- Read one difference: its value and the rest. -/
def decodeDelta (bias : Nat) : Nat → Nat → Nat → List Char → Option (Nat × List Char)
  | _, _, _, [] => none
  | k, weight, value, c :: rest => do
    let d ← digitValue c
    let value := value + d * weight
    let t := threshold k bias
    if d < t then return (value, rest)
    decodeDelta bias (k + 36) (weight * (36 - t)) value rest

/-- Put an element at a position of a list. -/
def insertAt {α : Type} (x : α) : Nat → List α → List α
  | 0, xs => x :: xs
  | _, [] => [x]
  | n + 1, y :: ys => y :: insertAt x n ys

/-- Read differences into the characters read so far. -/
def decodeFrom : Nat → Nat → Nat → Nat → List Char → List Char → Option (List Char)
  | _, _, _, _, done, [] => some done
  | 0, _, _, _, _, _ => none
  | fuel + 1, next, place, bias, done, digits => do
    let (delta, rest) ← decodeDelta bias 36 1 0 digits
    let count := done.length + 1
    let total := place + delta
    let point := next + total / count
    let spot := total % count
    if 0x110000 ≤ point ∨ (0xD800 ≤ point ∧ point < 0xE000) then none
    decodeFrom fuel point (spot + 1) (adapt delta count (place == 0))
      (insertAt (Char.ofNat point) spot done) rest

/-- The label an ASCII form stands for. -/
def decode? (text : List Char) : Option (List Char) :=
  let (basic, digits) :=
    match text.reverse.span (· != '-') with
    | (_, []) => ([], text)
    | (tail, _ :: lead) => (lead.reverse, tail.reverse)
  if basic.all (fun c => c.toNat < 128) then
    decodeFrom (digits.length + 1) 128 0 72 basic digits
  else none

end Punycode

end Turnstile
