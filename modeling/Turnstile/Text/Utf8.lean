/-!
# UTF-8 — bytes to characters, one byte at a time

A decoder that keeps only what it owes: after each byte it either stands
between characters or knows how many continuation bytes are still due and
in which range the next one must lie. A byte that cannot continue the
sequence ends it as *invalid* and is then read as a first byte, so every
maximal ill-formed stretch counts once. Reading in pieces and reading at
once are the same fold.
-/

namespace Turnstile

/-- A run of octets. -/
abbrev Bytes := List UInt8

namespace Utf8

/-- What the decoder owes: nothing, or `left` continuation bytes whose
first lies in `lo … hi`, with the bits `acc` read so far. -/
inductive Owed where
  | nothing
  | more (lo hi : UInt8) (left acc : Nat)
  deriving DecidableEq, Repr

/-- One decoded unit: a character, or `none` for an ill-formed stretch. -/
abbrev Symbol := Option Char

/-- Read a byte that begins a sequence: what is owed after it and the
symbol it completes, if any. -/
def first (b : UInt8) : Owed × List Symbol :=
  if b < 0x80 then (.nothing, [some (Char.ofNat b.toNat)])
  else if b < 0xC2 then (.nothing, [none])
  else if b < 0xE0 then (.more 0x80 0xBF 1 (b.toNat % 32), [])
  else if b = 0xE0 then (.more 0xA0 0xBF 2 0, [])
  else if b = 0xED then (.more 0x80 0x9F 2 13, [])
  else if b < 0xF0 then (.more 0x80 0xBF 2 (b.toNat % 16), [])
  else if b = 0xF0 then (.more 0x90 0xBF 3 0, [])
  else if b < 0xF4 then (.more 0x80 0xBF 3 (b.toNat % 8), [])
  else if b = 0xF4 then (.more 0x80 0x8F 3 4, [])
  else (.nothing, [none])

/-- Read one byte in any state. -/
def step : Owed → UInt8 → Owed × List Symbol
  | .nothing, b => first b
  | .more lo hi left acc, b =>
    if lo ≤ b ∧ b ≤ hi then
      let acc := acc * 64 + b.toNat % 64
      match left with
      | 0 | 1 => (.nothing, [some (Char.ofNat acc)])
      | left + 2 => (.more 0x80 0xBF (left + 1) acc, [])
    else
      let (owed, out) := first b
      (owed, none :: out)

/-- A decoder at work: what it owes and what it has produced, last first. -/
structure Decoder where
  owed : Owed
  produced : List Symbol

namespace Decoder

/-- Nothing read yet. -/
def start : Decoder := ⟨.nothing, []⟩

/-- Take in one byte. -/
def feed (d : Decoder) (b : UInt8) : Decoder :=
  let (owed, out) := step d.owed b
  ⟨owed, out.reverse ++ d.produced⟩

/-- Take in a run of bytes. -/
def run (d : Decoder) (bytes : Bytes) : Decoder := bytes.foldl feed d

/-- The symbols in reading order; a sequence still owed bytes is ill-formed. -/
def symbols (d : Decoder) : List Symbol :=
  match d.owed with
  | .nothing => d.produced.reverse
  | .more .. => (none :: d.produced).reverse

/-- Pieces read in turn are read as one. -/
theorem run_append (d : Decoder) (a b : Bytes) : d.run (a ++ b) = (d.run a).run b :=
  List.foldl_append

end Decoder

/-- Every symbol of a byte string. -/
def symbols (bytes : Bytes) : List Symbol := (Decoder.start.run bytes).symbols

/-- The stand-in for an ill-formed stretch. -/
def replacement : Char := '\uFFFD'

/-- The text of a byte string, each ill-formed stretch replaced. -/
def decodeLossy (bytes : Bytes) : String :=
  String.ofList ((symbols bytes).map fun s => s.getD replacement)

/-- The text of a symbol list without ill-formed stretches. -/
def textOf? (symbols : List Symbol) : Option String :=
  if symbols.all Option.isSome then
    some (String.ofList (symbols.filterMap id))
  else none

/-- The text of a well-formed byte string. -/
def decode? (bytes : Bytes) : Option String := textOf? (symbols bytes)

/-- The bytes of a text. -/
def encode (s : String) : Bytes := s.toUTF8.toList

end Utf8

end Turnstile
