import Turnstile.Config.Setting
import Turnstile.Toml.Reader
import Turnstile.Text.Blank
import Turnstile.Text.Case
/-!
# Settings from variables

Variables whose names start with a common text are settings: the rest of
the name is a path of keys, with two underscores between them, and the
value is read loosely. What is no flag, number, list or table is a text,
and so is a value that turns out to be none of these after all.
-/

namespace Turnstile

namespace Variables

/-- What is left of a value. -/
abbrev Input := List Char

/-- A blank between the parts of a value. -/
def isBlank (c : Char) : Bool :=
  c == ' ' || c == '\t' || c == '\n' || c == '\x0c' || c == '\r'

/-- A character of a plain value. -/
def inPlain (c : Char) : Bool :=
  !(c == ',' || c == '\x7b' || c == '\x7d' || c == '[' || c == ']')

/-- Drop blanks. -/
def blanks (cs : Input) : Input := cs.dropWhile isBlank

/-- The whole number a text spells, if it fits 64 bits with or without a
sign. -/
def whole? (cs : List Char) : Option Int :=
  let (negative, ds) := match cs with
    | '-' :: ds => (true, ds)
    | '+' :: ds => (false, ds)
    | ds => (false, ds)
  let n := Literal.spell (Toml.digitValues ds)
  if ds.isEmpty || !ds.all Char.isDigit then none
  else if negative then if n ≤ Nat.pow 2 63 then some (-(n : Int)) else none
  else if n < Nat.pow 2 64 then some n
  else none

/-- The text is a number with a point. -/
def isReal (cs : List Char) : Bool :=
  let (whole, rest) := (Toml.sign cs).2.span Char.isDigit
  match rest with
  | '.' :: rest =>
    let (fraction, rest) := rest.span Char.isDigit
    let power : Bool := match rest with
      | [] => true
      | e :: rest =>
        let ds := (Toml.sign rest).2
        (e == 'e' || e == 'E') && !ds.isEmpty && ds.all Char.isDigit
    !(whole.isEmpty && fraction.isEmpty) && power
  | _ => false

/-- A value of plain characters: a number, or else a text. -/
def plain (cs : List Char) : Setting :=
  let s := Text.trim (String.ofList cs)
  if isReal s.toList then .real s
  else
    match whole? s.toList with
    | some n => .whole n
    | none => .text s

/-- A text between quotes. -/
def quoted? : Input → Option (String × Input)
  | '"' :: rest => (Toml.basic (rest.length + 1) rest).map fun p => (String.ofList p.1, p.2)
  | _ => none

/-- A key of a table between braces. -/
def key? (cs : Input) : Option (String × Input) :=
  match cs with
  | '"' :: _ => quoted? cs
  | _ =>
    let (key, rest) := cs.span Toml.inBareKey
    if key.isEmpty then none else some (String.ofList key, rest)

mutual

/-- A value and what follows it. -/
def value? : Nat → Input → Option (Setting × Input)
  | 0, _ => none
  | n + 1, cs => do
    let (value, rest) ← match blanks cs with
      | 't' :: 'r' :: 'u' :: 'e' :: rest => some (Setting.flag true, rest)
      | 'f' :: 'a' :: 'l' :: 's' :: 'e' :: rest => some (.flag false, rest)
      | '\x7b' :: rest => (entries? n rest).map fun p => (Setting.ofEntries p.1, p.2)
      | '[' :: rest => (items? n rest).map fun p => (Setting.list p.1, p.2)
      | '"' :: rest => (quoted? ('"' :: rest)).map fun p => (Setting.text p.1, p.2)
      | '\'' :: rest =>
        match rest with
        | c :: '\'' :: rest => some (.letter c, rest)
        | _ => none
      | cs =>
        let (front, rest) := cs.span inPlain
        some (plain front, rest)
    return (value, blanks rest)

/-- The items of a list up to its bracket; a comma may stand behind the
last one. -/
def items? : Nat → Input → Option (List Setting × Input)
  | 0, _ => none
  | n + 1, cs =>
    match cs with
    | ']' :: rest => some ([], rest)
    | cs => do
      let (item, rest) ← value? n cs
      match rest with
      | ',' :: rest =>
        let (more, rest) ← items? n rest
        return (item :: more, rest)
      | ']' :: rest => return ([item], rest)
      | _ => none

/-- The entries of a table up to its brace; a comma may stand behind the
last one. -/
def entries? : Nat → Input → Option (List (String × Setting) × Input)
  | 0, _ => none
  | n + 1, cs =>
    match cs with
    | '\x7d' :: rest => some ([], rest)
    | cs => do
      let (key, rest) ← key? (blanks cs)
      let rest ← Toml.mark? '=' (blanks rest)
      let (value, rest) ← value? n rest
      match rest with
      | ',' :: rest =>
        let (more, rest) ← entries? n rest
        return ((key, value) :: more, rest)
      | '\x7d' :: rest => return ([(key, value)], rest)
      | _ => none

end

/-- The setting a value stands for. -/
def read (s : String) : Setting :=
  let cs := s.toList
  match value? (2 * cs.length + 2) cs with
  | some (value, []) => value
  | _ => .text s

/-- The path of keys a name stands for, if it starts with the common text
in any letter case and no key is empty. -/
def path? (lead name : String) : Option (List String) := do
  let name := Text.asciiLower (Text.trim name)
  let rest ← Text.strip? (Text.asciiLower lead) name
  let keys := Text.splitOn (Text.trim (Text.replace rest "__" ".")) '.'
  if keys.any (·.isEmpty) then none else return keys

/-- The settings of variables, later ones over earlier ones. -/
def settings (lead : String) (env : List (String × String)) : Setting :=
  env.foldl (fun all v =>
    match path? lead v.1 with
    | some path => all.under (Setting.nested path (read v.2))
    | none => all) (.table [])

end Variables

end Turnstile
