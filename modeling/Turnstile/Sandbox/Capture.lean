import Turnstile.Text.Cap
import Turnstile.Text.Utf8
/-!
# Captured output

One pipe of a process, read to its end. Everything is read, so that the
process never waits on a full pipe; only the first bytes are kept.
-/

namespace Turnstile

/-- One read of a pipe. -/
inductive PipeRead where
  | data (bytes : Bytes)
  /-- The read was interrupted and is tried again. -/
  | interrupted
  | failure (text : String)
  deriving Repr, Inhabited

/-- What came out of a pipe. -/
structure Captured where
  /-- Decoded text within the cap, with the marker if bytes were dropped. -/
  text : String
  totalBytes : Nat
  truncated : Bool
  /-- The failure that ended the reading, if one did. -/
  error : Option String
  deriving DecidableEq, Repr, Inhabited

/-- A pipe being read. -/
structure Drain where
  kept : Bytes
  /-- How many bytes were read, kept or not. -/
  total : Nat
  deriving DecidableEq, Repr, Inhabited

namespace Drain

/-- Nothing read yet. -/
def start : Drain := ⟨[], 0⟩

/-- Take in bytes: those there is room for are kept, and all are counted. -/
def take (max : Nat) (d : Drain) (bytes : Bytes) : Drain :=
  ⟨d.kept ++ bytes.take (max - d.kept.length), d.total + bytes.length⟩

/-- Take in one read. `.error` is a pipe that has ended, with the failure
that ended it, if one did. A read of no bytes is the end of the pipe. -/
def step (max : Nat) (d : Drain) : PipeRead → Except (Option String) Drain
  | .data [] => .error none
  | .data bytes => .ok (d.take max bytes)
  | .interrupted => .ok d
  | .failure text => .error (some text)

/-- Take in reads in turn until the pipe has ended; what is left of the
reads then does not happen. -/
def run (max : Nat) (d : Drain) : List PipeRead → Drain × Option String
  | [] => (d, none)
  | read :: rest =>
    match d.step max read with
    | .ok d => d.run max rest
    | .error cause => (d, cause)

/-- What is shown of it. A cut can leave a part of a character, which takes
more room once decoded, so the text is cut as well. -/
def captured (max : Nat) (d : Drain) (error : Option String) : Captured :=
  let shown := Text.truncate (Utf8.decodeLossy d.kept) max
  { text := if max < d.total then shown ++ Text.truncationMarker else shown
    totalBytes := d.total
    truncated := max < d.total
    error }

end Drain

/-- The reads before the moment reading is stopped; `stopAt` counts the
reads that still happen. -/
def Captured.readsUntilStop (stopAt : Option Nat) (reads : List PipeRead) : List PipeRead :=
  match stopAt with
  | some n => reads.take n
  | none => reads

/-- Read a pipe to its end, keeping at most `max` bytes. -/
def capture (max : Nat) (stopAt : Option Nat) (reads : List PipeRead) : Captured :=
  let (d, error) := Drain.start.run max (Captured.readsUntilStop stopAt reads)
  d.captured max error

end Turnstile
