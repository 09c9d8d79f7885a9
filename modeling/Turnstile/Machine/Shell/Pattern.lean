import Turnstile.Machine.Shell.State
/-!
# The shell — patterns

Patterns as they stand for paths and as they are matched against texts.
Only characters that are not quoted have a meaning of their own.
-/

namespace Turnstile

namespace Shell

/-- A character with whether it is quoted. -/
abbrev Mark := Char × Bool

/-- A set between brackets: whether it holds the character, and the rest. -/
def bracket? (c : Char) (pattern : List Mark) : Option (Bool × List Mark) :=
  let negated := pattern.head? = some ('!', false)
  let body := if negated then pattern.tail else pattern
  let lead := body.take (if body.head?.any (fun (m : Mark) => m.1 == ']') then 1 else 0)
  let (set, rest) := (body.drop lead.length).span fun (m : Mark) => m.1 != ']' || m.2
  match rest with
  | [] => none
  | _ :: rest => some (inSet ((lead ++ set).map fun (m : Mark) => m.1) != negated, rest)
where
  inSet : List Char → Bool
    | a :: '-' :: b :: rest => (a ≤ c && c ≤ b) || inSet rest
    | a :: rest => a == c || inSet rest
    | [] => false

/-- The pattern matches the text. Fuel is the length of both. -/
def matchesAt : Nat → List Mark → List Char → Bool
  | 0, _, _ => false
  | _, [], cs => cs.isEmpty
  | n + 1, ('*', false) :: rest, cs =>
    matchesAt n rest cs ||
      match cs with
      | _ :: more => matchesAt n (('*', false) :: rest) more
      | [] => false
  | n + 1, ('?', false) :: rest, cs =>
    match cs with
    | _ :: more => matchesAt n rest more
    | [] => false
  | n + 1, ('[', false) :: rest, cs =>
    match cs with
    | c :: more =>
      match bracket? c rest with
      | some (hit, rest) => hit && matchesAt n rest more
      | none => c == '[' && matchesAt n rest more
    | [] => false
  | n + 1, (p, _) :: rest, cs =>
    match cs with
    | c :: more => p == c && matchesAt n rest more
    | [] => false

/-- The pattern matches the text. -/
def isMatch (pattern : List Mark) (text : List Char) : Bool :=
  matchesAt (pattern.length + text.length + 1) pattern text

/-- Some character of the pattern is not itself. -/
def isPattern (pattern : List Mark) : Bool :=
  pattern.any fun (m : Mark) => !m.2 && (m.1 == '*' || m.1 == '?' || m.1 == '[')

/-- The text of marks. -/
def plain (marks : List Mark) : String := String.ofList (marks.map fun (m : Mark) => m.1)

/-- The paths a pattern matches, part by part. -/
def globParts (files : FileTree) (cwd : AbsPath) (done : String) : List (List Mark) → List String
  | [] => [done]
  | part :: rest =>
    if isPattern part then
      let at_ := if done.isEmpty then "." else done
      match files.stat cwd at_ with
      | .ok (p, .directory) =>
        let names := (Utility.inOrder (files.children p)).filter fun name =>
          isMatch part name.toList && (!Text.startsWith name "." || part.head? == some ('.', false))
        names.flatMap fun name =>
          globParts files cwd (if done.isEmpty then name else Path.join done name) rest
      | _ => []
    else
      let next := done ++ plain part
      globParts files cwd (if rest.isEmpty then next else next ++ "/") rest

/-- The paths a word stands for; a pattern that matches nothing stands for
itself. -/
def glob (s : State) (word : List Mark) : List String :=
  if isPattern word then
    let found := (globParts s.files s.cwd "" (Text.splitListAt (·.1 == '/') word)).filter fun path =>
      (s.files.lookUp false s.cwd path).toBool
    if found.isEmpty then [plain word] else found
  else [plain word]

/-- Remove the shortest or longest matching part at an end of a text. -/
def stripMatch (atStart longest : Bool) (pattern : List Mark) (text : List Char) : List Char :=
  let sizes := List.range (text.length + 1)
  let sizes := if longest then sizes.reverse else sizes
  let hit := sizes.find? fun n =>
    isMatch pattern (if atStart then text.take n else text.drop (text.length - n))
  match hit with
  | some n => if atStart then text.drop n else text.take (text.length - n)
  | none => text

end Shell

end Turnstile
