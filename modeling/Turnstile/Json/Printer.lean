import Turnstile.Json.Value
import Turnstile.Number.Shortest
/-!
# JSON text

Writes values without any blanks, or over several lines with two blanks
per level. Only the quotation mark, the reverse solidus and the control
characters are escaped.
-/

namespace Turnstile

namespace Json

/-- A hexadecimal digit. -/
def hexDigit (n : Nat) : Char :=
  if n < 10 then Char.ofNat (48 + n) else Char.ofNat (87 + n)

/-- One character of a string. -/
def escapeChar (c : Char) : List Char :=
  if c = '"' then ['\\', '"']
  else if c = '\\' then ['\\', '\\']
  else if c = '\n' then ['\\', 'n']
  else if c = '\r' then ['\\', 'r']
  else if c = '\t' then ['\\', 't']
  else if c = '\x08' then ['\\', 'b']
  else if c = '\x0c' then ['\\', 'f']
  else if c.toNat < 32 then
    ['\\', 'u', '0', '0', hexDigit (c.toNat / 16), hexDigit (c.toNat % 16)]
  else [c]

/-- A string in quotation marks. -/
def quoted (s : String) : List Char :=
  '"' :: (s.toList.flatMap escapeChar ++ ['"'])

/-- Positional from `1e-5` up to below `1e16`; whole numbers keep a
fractional nought; a positive exponent shows its sign. -/
def floatLayout : Shortest.Layout := ⟨-4, 16, ".0", true⟩

/-- The text of a number; there is none for infinities. -/
def numberText : Number → String
  | .int n => toString n
  | .float x =>
    if x.isFinite .binary64 then floatLayout.text .binary64 x else "null"

mutual

/-- The text of a value. -/
def chars : Json → List Char
  | .null => ['n', 'u', 'l', 'l']
  | .bool true => ['t', 'r', 'u', 'e']
  | .bool false => ['f', 'a', 'l', 's', 'e']
  | .num n => (numberText n).toList
  | .str s => quoted s
  | .arr [] => ['[', ']']
  | .arr (x :: xs) => '[' :: (chars x ++ itemChars xs)
  | .obj [] => ['\x7b', '\x7d']
  | .obj ((k, v) :: rest) => '\x7b' :: (quoted k ++ ':' :: (chars v ++ fieldChars rest))

/-- The items after the first, with the closing bracket. -/
def itemChars : List Json → List Char
  | [] => [']']
  | x :: xs => ',' :: (chars x ++ itemChars xs)

/-- The fields after the first, with the closing brace. -/
def fieldChars : List (String × Json) → List Char
  | [] => ['\x7d']
  | (k, v) :: rest => ',' :: (quoted k ++ ':' :: (chars v ++ fieldChars rest))

end

/-- The text of a value without blanks. -/
def compact (j : Json) : String := String.ofList (chars j)

/-- A line break and the indentation of a level. -/
def breakAt (level : Nat) : String := "\n" ++ String.ofList (List.replicate (2 * level) ' ')

mutual

/-- The text of a value over several lines. -/
def prettyAt (level : Nat) : Json → String
  | .arr [] => "[]"
  | .arr (x :: xs) => "[" ++ breakAt (level + 1) ++ prettyAt (level + 1) x ++ prettyItems level xs
  | .obj [] => "\x7b\x7d"
  | .obj ((k, v) :: rest) =>
    "\x7b" ++ breakAt (level + 1) ++ String.ofList (quoted k) ++ ": " ++
      prettyAt (level + 1) v ++ prettyFields level rest
  | j => compact j

/-- The items after the first, with the closing bracket. -/
def prettyItems (level : Nat) : List Json → String
  | [] => breakAt level ++ "]"
  | x :: xs => "," ++ breakAt (level + 1) ++ prettyAt (level + 1) x ++ prettyItems level xs

/-- The fields after the first, with the closing brace. -/
def prettyFields (level : Nat) : List (String × Json) → String
  | [] => breakAt level ++ "\x7d"
  | (k, v) :: rest =>
    "," ++ breakAt (level + 1) ++ String.ofList (quoted k) ++ ": " ++
      prettyAt (level + 1) v ++ prettyFields level rest

end

/-- The text of a value over several lines. -/
def pretty (j : Json) : String := prettyAt 0 j

end Json

end Turnstile
