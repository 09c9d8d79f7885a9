/-!
# Capping — the longest whole-character start within a byte budget

A text is cut only between characters. What was cut is announced by a
marker, so a capped text is never mistaken for a complete one.
-/

namespace Turnstile

namespace Text

/-- Appended wherever output was cut. -/
def truncationMarker : String := "\n... [output truncated]"

/-- The longest start of `cs` whose UTF-8 length is at most `max`. -/
def takeBytes (max : Nat) (cs : List Char) : List Char :=
  go max [] cs
where
  /-- Take characters while the budget lasts; `taken` is last first. -/
  go (left : Nat) (taken : List Char) : List Char → List Char
    | [] => taken.reverse
    | c :: cs =>
      if c.utf8Size ≤ left then go (left - c.utf8Size) (c :: taken) cs
      else taken.reverse

/-- `s` cut to at most `max` bytes without splitting a character. -/
def truncate (s : String) (max : Nat) : String :=
  if s.utf8ByteSize ≤ max then s else String.ofList (takeBytes max s.toList)

/-- `s` cut to `max` bytes, with the marker when anything was cut. -/
def capWithMarker (s : String) (max : Nat) : String :=
  if s.utf8ByteSize ≤ max then s else truncate s max ++ truncationMarker

end Text

end Turnstile
