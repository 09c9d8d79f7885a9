import Turnstile.Text.Utf8
import Turnstile.Text.Blank
/-!
# Lines of a byte stream

Bytes are held until a line feed completes a line, so a line is decoded
whole however the stream was cut. One carriage return before the line
feed belongs to the line end. What is held between two chunks has no line
feed in it, so only the bytes of a new chunk are searched for one.
-/

namespace Turnstile

/-- Bytes of a line not yet complete. -/
structure LineBuffer where
  pending : Bytes
  deriving Repr, DecidableEq

namespace LineBuffer

/-- The byte that ends a line. -/
def lineFeed : UInt8 := 10

/-- The byte that may precede it. -/
def carriageReturn : UInt8 := 13

/-- The text of a line, without the carriage return of its end. -/
def decode (raw : Bytes) : String :=
  Utf8.decodeLossy (if raw.getLast? = some carriageReturn then raw.dropLast else raw)

/-- Nothing held. -/
def empty : LineBuffer := ⟨[]⟩

/-- The lines complete in the pending bytes, and where the one after them
begins. The line at hand begins at `lineStart`; the bytes from
`searchFrom` on have not been searched. -/
def completed (pending : Bytes) (lineStart searchFrom : Nat) : List String × Nat :=
  match _found : (pending.drop searchFrom).findIdx? (· == lineFeed) with
  | none => ([], lineStart)
  | some offset =>
    let stop := searchFrom + offset
    let (lines, rest) := completed pending (stop + 1) (stop + 1)
    (decode ((pending.take stop).drop lineStart) :: lines, rest)
termination_by pending.length - searchFrom
decreasing_by
  have := (List.findIdx?_eq_some_iff_findIdx_eq.mp _found).1
  rw [List.length_drop] at this
  omega

/-- Take in a chunk; the lines it completed, in order. -/
def push (buffer : LineBuffer) (chunk : Bytes) : LineBuffer × List String :=
  let pending := buffer.pending ++ chunk
  let (lines, lineStart) := completed pending 0 buffer.pending.length
  (⟨pending.drop lineStart⟩, lines)

/-- The unterminated last line, if there is one. -/
def finish (buffer : LineBuffer) : LineBuffer × Option String :=
  (empty, if buffer.pending.isEmpty then none else some (decode buffer.pending))

end LineBuffer

/-! ## Event-stream fields -/

namespace EventLine

/-- The payload of a `data:` line, without the one blank that may lead it. -/
def data? (line : String) : Option String :=
  (Text.strip? "data:" line).map fun rest => (Text.strip? " " rest).getD rest

/-- The name on an `event:` line. -/
def name? (line : String) : Option String := (Text.strip? "event:" line).map Text.trim

end EventLine

end Turnstile
