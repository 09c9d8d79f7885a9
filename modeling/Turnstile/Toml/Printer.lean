import Turnstile.Text.Blank
/-!
# Writing TOML

Tables with their plain values first and a header for each table in them.
A text with quotes or backslashes is written as it is between apostrophes
where that can be done; any other is written between quotes. A text over
several lines stays one. Lists of two and more items take a line for each.
-/

namespace Turnstile

namespace Toml

/-- What is written of a table. -/
inductive Shown where
  | text (s : String)
  | flag (b : Bool)
  | whole (n : Nat)
  | texts (items : List String)
  /-- Nothing is written. -/
  | absent
  | table (entries : List (String × Shown))
  deriving Repr, Inhabited

/-! ## Texts -/

/-- The length of the longest run of apostrophes. -/
def longestRun : Nat → Nat → List Char → Nat
  | best, run, [] => max best run
  | best, run, c :: rest =>
    if c == '\'' then longestRun best (run + 1) rest else longestRun (max best run) 0 rest

/-- A control character other than a tab. -/
def isControl (c : Char) : Bool := c != '\t' && (c.toNat < 32 || c.toNat == 127)

/-- The text is written as it is. -/
def isVerbatim (cs : List Char) : Bool :=
  cs.any (fun c => c == '"' || c == '\\') &&
    !cs.any (fun c => isControl c && c != '\n') &&
    longestRun 0 0 cs < 3 && cs.getLast? != some '\''

/-- Four hexadecimal digits. -/
def fourDigits (n : Nat) : List Char :=
  let ds := (Nat.toDigits 16 n).map Char.toUpper
  List.replicate (4 - ds.length) '0' ++ ds

/-- A character between quotes. -/
def escaped (lines : Bool) (c : Char) : List Char :=
  if c == '\x08' then ['\\', 'b']
  else if c == '\t' then ['\\', 't']
  else if c == '\n' then if lines then ['\n'] else ['\\', 'n']
  else if c == '\x0c' then ['\\', 'f']
  else if c == '\r' then ['\\', 'r']
  else if c == '"' then ['\\', '"']
  else if c == '\\' then ['\\', '\\']
  else if isControl c then '\\' :: 'u' :: fourDigits c.toNat
  else [c]

/-- A text between quotes. -/
def quoted (lines : Bool) (s : String) : String :=
  let mark := if lines then "\"\"\"" else "\""
  mark ++ (if lines then "\n" else "") ++ String.ofList (s.toList.flatMap (escaped lines)) ++ mark

/-- A text. -/
def textOf (s : String) : String :=
  let cs := s.toList
  let lines := cs.contains '\n'
  if isVerbatim cs then
    if lines then "'''\n" ++ s ++ "'''"
    else if cs.contains '\'' then "'''" ++ s ++ "'''"
    else "'" ++ s ++ "'"
  else quoted lines s

/-- A key: as it is if it is plain, else quoted on one line. -/
def keyOf (key : String) : String :=
  let cs := key.toList
  if !cs.isEmpty && cs.all (fun c => c.isAlphanum || c == '_' || c == '-') then key
  else if cs.any (fun c => c == '"' || c == '\\') && !cs.any (fun c => isControl c || c == '\'') then
    "'" ++ key ++ "'"
  else quoted false key

/-! ## Tables -/

/-- The greatest whole number. -/
def greatest : Nat := Nat.pow 2 63 - 1

/-- A plain value, if it is one and is not absent; the error is the message
for a number that is too great. -/
def plainOf : Shown → Except String (Option String)
  | .text s => .ok (some (textOf s))
  | .flag b => .ok (some (if b then "true" else "false"))
  | .whole n =>
    if n ≤ greatest then .ok (some (toString n)) else .error "out-of-range value for u64 type"
  | .texts [] => .ok (some "[]")
  | .texts [one] => .ok (some ("[" ++ textOf one ++ "]"))
  | .texts items =>
    .ok (some ("[\n" ++ String.join (items.map fun s => "    " ++ textOf s ++ ",\n") ++ "]"))
  | .absent | .table _ => .ok none

/-- The lines of the plain values in a table. -/
def lines : List (String × Shown) → Except String String
  | [] => .ok ""
  | (key, value) :: rest => do
    let line ← plainOf value
    let more ← lines rest
    return (line.map fun text => keyOf key ++ " = " ++ text ++ "\n").getD "" ++ more

mutual

/-- The tables in entries, each under its header. -/
def tableTexts (path : List String) : List (String × Shown) → Except String (List String)
  | [] => .ok []
  | (key, value) :: rest => do
    let here ← tableText (path ++ [key]) value
    return here ++ (← tableTexts path rest)

/-- A table under its header, with the tables in it. -/
def tableText (path : List String) : Shown → Except String (List String)
  | .table entries => do
    let own ← lines entries
    let header := "[" ++ Text.join "." (path.map keyOf) ++ "]\n"
    return (header ++ own) :: (← tableTexts path entries)
  | _ => .ok []

end

/-- A document; the error is the message for a number that is too great. -/
def document (entries : List (String × Shown)) : Except String String := do
  let own ← lines entries
  let parts ← tableTexts [] entries
  return Text.join "\n" ((if own.isEmpty then [] else [own]) ++ parts)

end Toml

end Turnstile
