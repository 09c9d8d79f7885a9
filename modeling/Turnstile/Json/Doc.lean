import Turnstile.Json.Value
import Turnstile.Number.Literal
import Turnstile.Text.Utf8
/-!
# JSON documents

The tree of a JSON text before its leaves are judged. A string with an
unpaired surrogate or ill-formed bytes, or a number out of range, is an
*unusable leaf*: it spoils whatever reads it, and nothing else. Objects
keep every field in the order of the text, repeated names included.
-/

namespace Turnstile

/-- A parsed JSON text. `none` marks an unusable leaf. -/
inductive Doc where
  | null
  | bool (b : Bool)
  | num (n : Option Number)
  | str (s : Option String)
  | arr (items : List Doc)
  | obj (fields : List (Option String × Doc))
  deriving Repr, Inhabited

namespace Doc

/-- A text as the parser reads it: characters and ill-formed stretches. -/
abbrev Input := List Utf8.Symbol

/-- Blank, tab and the two line-end characters. -/
def isSpace : Utf8.Symbol → Bool
  | some ' ' | some '\n' | some '\t' | some '\r' => true
  | _ => false

/-- The input after leading space. -/
def skipSpace (cs : Input) : Input := cs.dropWhile isSpace

/-- The value of a decimal digit. -/
def digit? : Utf8.Symbol → Option Nat
  | some c => if c.isDigit then some (c.toNat - 48) else none
  | none => none

/-- The leading digits. -/
def digits : Input → List Nat × Input
  | [] => ([], [])
  | c :: cs =>
    match digit? c with
    | some d =>
      let (ds, rest) := digits cs
      (d :: ds, rest)
    | none => ([], c :: cs)

/-- The value of a hexadecimal digit. -/
def hex? : Utf8.Symbol → Option Nat
  | some c =>
    if c.isDigit then some (c.toNat - 48)
    else if 'a' ≤ c ∧ c ≤ 'f' then some (c.toNat - 87)
    else if 'A' ≤ c ∧ c ≤ 'F' then some (c.toNat - 55)
    else none
  | none => none

/-- Four hexadecimal digits. -/
def hex4? (a b c d : Utf8.Symbol) : Option Nat := do
  return (((← hex? a) * 16 + (← hex? b)) * 16 + (← hex? c)) * 16 + (← hex? d)

/-- The value of a number literal. -/
def numberOf (l : Literal) : Option Number :=
  match l.toInt? with
  | some n => some (.int n)
  | none => l.toBinary?.map .float

/-- The fraction of a number, if a point follows. -/
def fraction? : Input → Option (Option (List Nat) × Input)
  | some '.' :: cs =>
    match digits cs with
    | ([], _) => none
    | (ds, rest) => some (some ds, rest)
  | cs => some (none, cs)

/-- The digits of an exponent after its mark. -/
def exponentDigits (negative : Bool) (cs : Input) :
    Option (Option (Bool × List Nat) × Input) :=
  match digits cs with
  | ([], _) => none
  | (ds, rest) => some (some (negative, ds), rest)

/-- The exponent of a number, if a mark follows. -/
def exponent? : Input → Option (Option (Bool × List Nat) × Input)
  | some 'e' :: cs | some 'E' :: cs =>
    match cs with
    | some '+' :: rest => exponentDigits false rest
    | some '-' :: rest => exponentDigits true rest
    | rest => exponentDigits false rest
  | cs => some (none, cs)

/-- A number after its sign: no leading nought, digits on both sides of a
point, digits in an exponent. -/
def number (negative : Bool) (cs : Input) : Option (Doc × Input) :=
  match digits cs with
  | ([], _) => none
  | (0 :: _ :: _, _) => none
  | (whole, rest) => do
    let (fraction, rest) ← fraction? rest
    let (exponent, rest) ← exponent? rest
    return (.num (numberOf ⟨negative, whole, fraction, exponent⟩), rest)

/-- What the escape of one letter stands for. -/
def simpleEscape? : Char → Option Char
  | '"' => some '"'
  | '\\' => some '\\'
  | '/' => some '/'
  | 'b' => some '\x08'
  | 'f' => some '\x0c'
  | 'n' => some '\n'
  | 'r' => some '\r'
  | 't' => some '\t'
  | _ => none

/-- A string being read: its characters, last first; a leading surrogate
that awaits its partner; whether all of it can be used. -/
structure Partial where
  read : List Char
  lead : Option Nat
  usable : Bool

namespace Partial

/-- Nothing read. -/
def start : Partial := ⟨[], none, true⟩

/-- A character follows; a surrogate still waiting is spoilt. -/
def push (p : Partial) (c : Char) : Partial :=
  ⟨c :: p.read, none, p.usable && p.lead.isNone⟩

/-- The string cannot be used. -/
def spoil (p : Partial) : Partial := ⟨p.read, none, false⟩

/-- A code unit of an escape follows. -/
def pushUnit (p : Partial) (n : Nat) : Partial :=
  if 0xD800 ≤ n ∧ n ≤ 0xDBFF then ⟨p.read, some n, p.usable && p.lead.isNone⟩
  else if 0xDC00 ≤ n ∧ n ≤ 0xDFFF then
    match p.lead with
    | some h =>
      ⟨Char.ofNat (0x10000 + (h - 0xD800) * 0x400 + (n - 0xDC00)) :: p.read, none, p.usable⟩
    | none => p.spoil
  else p.push (Char.ofNat n)

/-- The string, if it can be used. -/
def finish (p : Partial) : Option String :=
  if p.usable && p.lead.isNone then some (String.ofList p.read.reverse) else none

end Partial

/-- A string after its opening quotation mark. -/
def string (p : Partial) : Input → Option (Option String × Input)
  | [] => none
  | some '"' :: rest => some (p.finish, rest)
  | some '\\' :: some 'u' :: a :: b :: c :: d :: rest =>
    match hex4? a b c d with
    | some n => string (p.pushUnit n) rest
    | none => none
  | some '\\' :: some e :: rest =>
    match simpleEscape? e with
    | some c => string (p.push c) rest
    | none => none
  | some '\\' :: _ => none
  | some c :: rest => if c.toNat < 32 then none else string (p.push c) rest
  | none :: rest => string p.spoil rest

mutual

/-- A value; the fuel bounds the number of values, items and fields. -/
def value : Nat → Input → Option (Doc × Input)
  | 0, _ => none
  | fuel + 1, cs =>
    match skipSpace cs with
    | some 'n' :: some 'u' :: some 'l' :: some 'l' :: rest => some (.null, rest)
    | some 't' :: some 'r' :: some 'u' :: some 'e' :: rest => some (.bool true, rest)
    | some 'f' :: some 'a' :: some 'l' :: some 's' :: some 'e' :: rest => some (.bool false, rest)
    | some '"' :: rest => (string .start rest).map fun (s, rest) => (.str s, rest)
    | some '[' :: rest =>
      match skipSpace rest with
      | some ']' :: rest => some (.arr [], rest)
      | rest => items fuel [] rest
    | some '\x7b' :: rest =>
      match skipSpace rest with
      | some '\x7d' :: rest => some (.obj [], rest)
      | rest => fields fuel [] rest
    | some '-' :: rest => number true rest
    | rest => number false rest

/-- The items of a non-empty array, `read` last first. -/
def items : Nat → List Doc → Input → Option (Doc × Input)
  | 0, _, _ => none
  | fuel + 1, read, cs =>
    match value fuel cs with
    | none => none
    | some (item, rest) =>
      match skipSpace rest with
      | some ',' :: rest => items fuel (item :: read) rest
      | some ']' :: rest => some (.arr (item :: read).reverse, rest)
      | _ => none

/-- The fields of a non-empty object, `read` last first. -/
def fields : Nat → List (Option String × Doc) → Input → Option (Doc × Input)
  | 0, _, _ => none
  | fuel + 1, read, cs =>
    match skipSpace cs with
    | some '"' :: rest =>
      match string .start rest with
      | none => none
      | some (key, rest) =>
        match skipSpace rest with
        | some ':' :: rest =>
          match value fuel rest with
          | none => none
          | some (item, rest) =>
            match skipSpace rest with
            | some ',' :: rest => fields fuel ((key, item) :: read) rest
            | some '\x7d' :: rest => some (.obj ((key, item) :: read).reverse, rest)
            | _ => none
        | _ => none
    | _ => none

end

/-- The document of a whole text: one value with space around it. -/
def parse (cs : Input) : Option Doc :=
  match value (2 * cs.length + 2) cs with
  | some (doc, rest) => if (skipSpace rest).isEmpty then some doc else none
  | none => none

/-- The document of a text. -/
def ofString? (s : String) : Option Doc := parse (s.toList.map some)

/-- The document of a byte string. -/
def ofBytes? (bytes : Bytes) : Option Doc := parse (Utf8.symbols bytes)

/-- How deep arrays and objects may nest: one less than this. -/
def nestingLimit : Nat := 128

/-- One level further in; `none` is no limit. The result is `none` when
the limit is reached. -/
def inside : Option Nat → Option (Option Nat)
  | none => some none
  | some (n + 2) => some (some (n + 1))
  | some _ => none

mutual

/-- The free-form value of a document: every leaf usable, nesting within
the limit, the last of equally named fields standing. -/
def toJson? (limit : Option Nat) : Doc → Option Json
  | .null => some .null
  | .bool b => some (.bool b)
  | .num n => n.map .num
  | .str s => s.map .str
  | .arr xs =>
    match inside limit with
    | some limit => (itemsToJson? limit xs).map .arr
    | none => none
  | .obj fs =>
    match inside limit with
    | some limit => (fieldsToJson? limit fs).map Json.ofFields
    | none => none

/-- The values of items. -/
def itemsToJson? (limit : Option Nat) : List Doc → Option (List Json)
  | [] => some []
  | x :: xs =>
    match toJson? limit x, itemsToJson? limit xs with
    | some j, some js => some (j :: js)
    | _, _ => none

/-- The values of fields. -/
def fieldsToJson? (limit : Option Nat) :
    List (Option String × Doc) → Option (List (String × Json))
  | [] => some []
  | (key, x) :: rest =>
    match key, toJson? limit x, fieldsToJson? limit rest with
    | some key, some j, some js => some ((key, j) :: js)
    | _, _, _ => none

end

mutual

/-- A value as a document. -/
def ofJson : Json → Doc
  | .null => .null
  | .bool b => .bool b
  | .num n => .num (some n)
  | .str s => .str (some s)
  | .arr xs => .arr (ofItems xs)
  | .obj fs => .obj (ofFields fs)

/-- Items as documents. -/
def ofItems : List Json → List Doc
  | [] => []
  | x :: xs => ofJson x :: ofItems xs

/-- Fields as documents. -/
def ofFields : List (String × Json) → List (Option String × Doc)
  | [] => []
  | (k, v) :: rest => (some k, ofJson v) :: ofFields rest

end

end Doc

namespace Json

/-- The value of a text. -/
def ofString? (s : String) : Option Json :=
  (Doc.ofString? s).bind (Doc.toJson? (some Doc.nestingLimit))

/-- The value of a byte string. -/
def ofBytes? (bytes : Bytes) : Option Json :=
  (Doc.ofBytes? bytes).bind (Doc.toJson? (some Doc.nestingLimit))

end Json

end Turnstile
