import Turnstile.Machine.Shell.Pattern
/-!
# The shell — fields of words

What the pieces of a word give, and how that is cut into fields: only what
an unquoted expansion gave is cut, at blanks.
-/

namespace Turnstile

namespace Shell

/-- What a piece of a word gives. -/
inductive Part where
  | marks (ms : List Mark)
  /-- A value that is cut at blanks. -/
  | loose (text : String)
  /-- The end of a field. -/
  | gap
  deriving Inhabited

/-- Fields from parts: the finished ones last first, and the one at hand. -/
def fieldsOf : List (List Mark) → Option (List Mark) → List Part → List (List Mark)
  | done, field, [] => (field.toList ++ done).reverse
  | done, field, .marks ms :: rest => fieldsOf done (some (field.getD [] ++ ms)) rest
  | done, field, .gap :: rest => fieldsOf (field.toList ++ done) none rest
  | done, field, .loose text :: rest =>
    let step (state : List (List Mark) × Option (List Mark)) (c : Char) :=
      if c == ' ' || c == '\t' || c == '\n' then (state.2.toList ++ state.1, none)
      else (state.1, some (state.2.getD [] ++ [(c, false)]))
    let (done, field) := text.toList.foldl step (done, field)
    fieldsOf done field rest

/-- Parts as one field, nothing cut. -/
def joinedMarks (parts : List Part) : List Mark :=
  parts.flatMap fun
    | .marks ms => ms
    | .loose text => text.toList.map fun c => (c, false)
    | .gap => [(' ', false)]

/-- Characters all quoted or not. -/
def marked (quoted : Bool) (text : String) : Part := .marks (text.toList.map fun c => (c, quoted))

/-- The text of a word in which nothing is quoted or expanded. -/
def literal? : Script.Word → Option String
  | [] => some ""
  | .text s false :: rest => (literal? rest).map (s ++ ·)
  | _ => none

/-- A tilde in front is the home directory. -/
def homeward (s : State) : Script.Word → Script.Word
  | .text "~" false :: rest =>
    match rest with
    | [] | .text "/" _ :: _ => .text ((Keyed.find? "HOME" s.vars).getD "~") true :: rest
    | _ => .text "~" false :: rest
  | word => word

end Shell

end Turnstile
