import Turnstile.Text.Utf8
/-!
# Feeds

The bytes that go through a pipe. A feed may be without end: then, after
some bytes, a pattern repeats for ever.
-/

namespace Turnstile

/-- Bytes, and then a pattern for ever unless it is empty. -/
structure Feed where
  bytes : Bytes
  cycle : Bytes
  deriving DecidableEq, Repr, Inhabited

namespace Feed

/-- No bytes. -/
def none : Feed := ⟨[], []⟩

/-- Some bytes. -/
def ofBytes (bytes : Bytes) : Feed := ⟨bytes, []⟩

/-- A text. -/
def ofString (s : String) : Feed := ofBytes (Utf8.encode s)

/-- A pattern for ever. -/
def forever (cycle : Bytes) : Feed := ⟨[], cycle⟩

/-- The feed comes to an end. -/
def ends (f : Feed) : Bool := f.cycle.isEmpty

/-- One feed after another; nothing comes after one without end. -/
def append (f g : Feed) : Feed := if f.ends then ⟨f.bytes ++ g.bytes, g.cycle⟩ else f

/-- At least `n` bytes, if there are so many. -/
def unrolled (f : Feed) (n : Nat) : Feed :=
  if f.ends || n ≤ f.bytes.length then f
  else
    let turns := (n - f.bytes.length) / f.cycle.length + 1
    ⟨f.bytes ++ (List.replicate turns f.cycle).flatten, f.cycle⟩

/-- The first `n` bytes and what follows. -/
def cut (f : Feed) (n : Nat) : Bytes × Feed :=
  let f := f.unrolled n
  (f.bytes.take n, ⟨f.bytes.drop n, f.cycle⟩)

/-- Every byte changed, dropped or multiplied. -/
def flatMap (f : Feed) (g : UInt8 → Bytes) : Feed := ⟨f.bytes.flatMap g, f.cycle.flatMap g⟩

/-- Pieces that each end with a line feed, but for the last one. -/
def splitLines : Bytes → List Bytes
  | [] => []
  | b :: rest =>
    if b == 10 then [b] :: splitLines rest
    else
      match splitLines rest with
      | [] => [[b]]
      | line :: lines => (b :: line) :: lines

/-- Cut after `n` line feeds, within the bytes at hand. -/
def cutLinesOf : Nat → Bytes → Bytes × Bytes
  | 0, bytes => ([], bytes)
  | _ + 1, [] => ([], [])
  | n + 1, b :: rest =>
    let (front, back) := cutLinesOf (if b == 10 then n else n + 1) rest
    (b :: front, back)
termination_by n bytes => (bytes.length, n)

/-- The first `n` lines and what follows. -/
def cutLines (f : Feed) (n : Nat) : Bytes × Feed :=
  let f := if f.cycle.contains 10 then f.unrolled (f.bytes.length + n * f.cycle.length) else f
  let (front, back) := cutLinesOf n f.bytes
  (front, ⟨back, f.cycle⟩)

end Feed

end Turnstile
