import Turnstile.Config.Setting
import Turnstile.Number.Literal
import Turnstile.Text.Blank
/-!
# Reading TOML

A document is first a list of statements: a header, or a key with its
value. `placeAll` then builds the table, which is where a key that is
given twice, and a table that is opened twice, are refused. There is one
error: the text is no document.
-/

namespace Turnstile

namespace Toml

/-- What is left of a text. -/
abbrev Input := List Char

/-! ## Characters -/

/-- A character that starts no line and ends no word. -/
def isSpace (c : Char) : Bool := c == ' ' || c == '\t'

/-- A character that may be shown: a tab, or no control character. -/
def isShown (c : Char) : Bool := c == '\t' || (32 ≤ c.toNat && c.toNat != 127)

/-- A character of a key that is not quoted. -/
def inBareKey (c : Char) : Bool := c.isAlphanum || c == '_' || c == '-'

/-- Drop blanks. -/
def blanks (cs : Input) : Input := cs.dropWhile isSpace

/-- A line end. -/
def lineEnd? : Input → Option Input
  | '\n' :: rest => some rest
  | '\r' :: '\n' :: rest => some rest
  | _ => none

/-- Drop a comment. -/
def comment (cs : Input) : Input :=
  match cs with
  | '#' :: rest => rest.dropWhile isShown
  | _ => cs

/-- Blanks and a comment, and then the end of the line or of the text. -/
def endOfLine? (cs : Input) : Option Input :=
  match comment (blanks cs) with
  | [] => some []
  | cs => lineEnd? cs

/-- Drop blanks, comments and line ends. -/
def gap : Nat → Input → Input
  | 0, cs => cs
  | n + 1, cs =>
    let cs := comment (blanks cs)
    match lineEnd? cs with
    | some rest => gap n rest
    | none => cs

/-! ## Strings -/

/-- The value of hexadecimal digits. -/
def hex? (cs : List Char) : Option Nat :=
  cs.foldl (fun n c => do
    let n ← n
    if c.isDigit then return n * 16 + (c.toNat - 48)
    else if 'a' ≤ c ∧ c ≤ 'f' then return n * 16 + (c.toNat - 87)
    else if 'A' ≤ c ∧ c ≤ 'F' then return n * 16 + (c.toNat - 55)
    else none) (some 0)

/-- The character of so many hexadecimal digits. -/
def codePoint? (digits : Nat) (cs : Input) : Option (Char × Input) := do
  if cs.length < digits then none
  let n ← hex? (cs.take digits)
  if n.isValidChar then return (Char.ofNat n, cs.drop digits) else none

/-- The character behind a backslash. -/
def escape? : Input → Option (Char × Input)
  | 'b' :: rest => some ('\x08', rest)
  | 't' :: rest => some ('\t', rest)
  | 'n' :: rest => some ('\n', rest)
  | 'f' :: rest => some ('\x0c', rest)
  | 'r' :: rest => some ('\r', rest)
  | '"' :: rest => some ('"', rest)
  | '\\' :: rest => some ('\\', rest)
  | 'u' :: rest => codePoint? 4 rest
  | 'U' :: rest => codePoint? 8 rest
  | _ => none

/-- A string up to a quote, with escapes. -/
def basic : Nat → Input → Option (List Char × Input)
  | 0, _ => none
  | n + 1, cs =>
    match cs with
    | [] => none
    | '"' :: rest => some ([], rest)
    | '\\' :: rest => do
      let (c, rest) ← escape? rest
      let (more, rest) ← basic n rest
      return (c :: more, rest)
    | c :: rest =>
      if isShown c then (basic n rest).map fun r => (c :: r.1, r.2) else none

/-- A string up to an apostrophe. -/
def literal : Input → Option (List Char × Input)
  | [] => none
  | '\'' :: rest => some ([], rest)
  | c :: rest => if isShown c then (literal rest).map fun r => (c :: r.1, r.2) else none

/-- The quotes in front, if there are at least three: the last three of at
most five close the string, the others are in it. -/
def closing? (quote : Char) (cs : Input) : Option (List Char × Input) :=
  let quotes := (cs.takeWhile (· == quote)).length
  if quotes < 3 then none
  else some (List.replicate (min quotes 5 - 3) quote, cs.drop (min quotes 5))

/-- Blanks and line ends behind a backslash that ends its line. -/
def joined? (cs : Input) : Option Input :=
  (lineEnd? (blanks cs)).map fun rest =>
    let rec skip : Nat → Input → Input
      | 0, cs => cs
      | n + 1, cs =>
        match lineEnd? (blanks cs) with
        | some rest => skip n rest
        | none => blanks cs
    skip rest.length rest

/-- A string over several lines, up to three quotes. -/
def multiline (quote : Char) : Nat → Input → Option (List Char × Input)
  | 0, _ => none
  | n + 1, cs =>
    match closing? quote cs with
    | some found => some found
    | none =>
      match cs with
      | [] => none
      | c :: rest =>
        if c == '\\' && quote == '"' then
          match joined? rest with
          | some rest => multiline quote n rest
          | none => do
            let (c, rest) ← escape? rest
            let (more, rest) ← multiline quote n rest
            return (c :: more, rest)
        else
          match lineEnd? cs with
          | some rest => (multiline quote n rest).map fun r => ('\n' :: r.1, r.2)
          | none =>
            if isShown c then (multiline quote n rest).map fun r => (c :: r.1, r.2) else none

/-- A string of any kind. -/
def string? (cs : Input) : Option (String × Input) :=
  let text (r : Option (List Char × Input)) : Option (String × Input) := r.map fun p => (String.ofList p.1, p.2)
  let body (rest : Input) : Input := (lineEnd? rest).getD rest
  match cs with
  | '"' :: '"' :: '"' :: rest => text (multiline '"' (rest.length + 1) (body rest))
  | '\'' :: '\'' :: '\'' :: rest => text (multiline '\'' (rest.length + 1) (body rest))
  | '"' :: rest => text (basic (rest.length + 1) rest)
  | '\'' :: rest => text (literal rest)
  | _ => none

/-! ## Keys -/

/-- A key without dots. -/
def simpleKey? (cs : Input) : Option (String × Input) :=
  match cs with
  | '"' :: rest => (basic (rest.length + 1) rest).map fun p => (String.ofList p.1, p.2)
  | '\'' :: rest => (literal rest).map fun p => (String.ofList p.1, p.2)
  | cs =>
    let (key, rest) := cs.span inBareKey
    if key.isEmpty then none else some (String.ofList key, rest)

/-- How deep values may be nested, and how many keys a path may have. -/
def depthLimit : Nat := 79

/-- Keys with dots between them. -/
def dottedKey? : Nat → Input → Option (List String × Input)
  | 0, _ => none
  | n + 1, cs => do
    let (key, rest) ← simpleKey? (blanks cs)
    match blanks rest with
    | '.' :: rest =>
      let (more, rest) ← dottedKey? n rest
      return (key :: more, rest)
    | rest => return ([key], rest)

/-! ## Numbers, dates and times -/

/-- Digits with single underscores between them. -/
def digits? (isDigit : Char → Bool) : Input → Option (List Char × Input)
  | [] => none
  | [c] => if isDigit c then some ([c], []) else none
  | c :: d :: rest =>
    if !isDigit c then none
    else if d == '_' then (digits? isDigit rest).map fun p => (c :: p.1, p.2)
    else if isDigit d then (digits? isDigit (d :: rest)).map fun p => (c :: p.1, p.2)
    else some ([c], d :: rest)

/-- Digits that do not start with a nought, but for a single one. -/
def decimal? (cs : Input) : Option (List Char × Input) :=
  match cs with
  | '0' :: rest => some (['0'], rest)
  | cs => digits? Char.isDigit cs

/-- The value of digits. -/
def digitValues (cs : List Char) : List Nat := cs.map fun c => c.toNat - 48

/-- A sign: whether it is a minus. -/
def sign (cs : Input) : Bool × Input :=
  match cs with
  | '-' :: rest => (true, rest)
  | '+' :: rest => (false, rest)
  | cs => (false, cs)

/-- A whole number that fits 64 bits with a sign. -/
def fit? (n : Int) : Option Setting :=
  if -(Nat.pow 2 63 : Int) ≤ n ∧ n < Nat.pow 2 63 then some (.whole n) else none

/-- The value of digits to a base. -/
def based (base : Nat) (ds : List Char) : Nat :=
  ds.foldl (fun n c => n * base +
    if c.isDigit then c.toNat - 48 else (c.toLower.toNat - 87)) 0

/-- A whole number to a base of its own. -/
def prefixed? (cs : Input) : Option (Option (Setting × Input)) :=
  let read (base : Nat) (isDigit : Char → Bool) (rest : Input) : Option (Option (Setting × Input)) :=
    some do
      let (ds, rest) ← digits? isDigit rest
      return (← fit? (based base ds), rest)
  match cs with
  | '0' :: 'x' :: rest =>
    read 16 (fun c => c.isDigit || ('a' ≤ c && c ≤ 'f') || ('A' ≤ c && c ≤ 'F')) rest
  | '0' :: 'o' :: rest => read 8 (fun c => '0' ≤ c && c ≤ '7') rest
  | '0' :: 'b' :: rest => read 2 (fun c => c == '0' || c == '1') rest
  | _ => none

/-- An exponent: its sign and digits. -/
def exponent? (cs : Input) : Option (Option ((Bool × List Char) × Input)) :=
  let read (rest : Input) : Option (Option ((Bool × List Char) × Input)) :=
    let (negative, rest) := sign rest
    some ((digits? Char.isDigit rest).map fun p => ((negative, p.1), p.2))
  match cs with
  | 'e' :: rest => read rest
  | 'E' :: rest => read rest
  | _ => none

/-- The text of what was read. -/
def taken (cs rest : Input) : String := String.ofList (cs.take (cs.length - rest.length))

/-- A number with a fraction or an exponent, if it is finite. -/
def finite? (cs : Input) (l : Literal) (rest : Input) : Option (Setting × Input) :=
  l.toBinary?.map fun _ => (.real (taken cs rest), rest)

/-- A number. -/
def number? (cs : Input) : Option (Setting × Input) :=
  match prefixed? cs with
  | some reading => reading
  | none => do
    let (negative, rest) := sign cs
    match rest with
    | 'i' :: 'n' :: 'f' :: rest => return (.real "inf", rest)
    | 'n' :: 'a' :: 'n' :: rest => return (.real "nan", rest)
    | _ =>
      let (whole, rest) ← decimal? rest
      let (fraction, rest) ← match rest with
        | '.' :: more => (digits? Char.isDigit more).map fun p => (some p.1, p.2)
        | _ => some (none, rest)
      let (power, rest) ← match exponent? rest with
        | some reading => reading.map fun p => (some p.1, p.2)
        | none => some (none, rest)
      if fraction.isNone && power.isNone then
        let n : Int := Literal.spell (digitValues whole)
        return (← fit? (if negative then -n else n), rest)
      else
        finite? cs
          ⟨negative, digitValues whole, fraction.map digitValues,
            power.map fun p => (p.1, digitValues p.2)⟩ rest

/-- A number of exactly so many digits within bounds. -/
def field? (size low high : Nat) (cs : Input) : Option (Nat × Input) :=
  let ds := cs.take size
  let n := Literal.spell (digitValues ds)
  if ds.length = size ∧ ds.all Char.isDigit ∧ low ≤ n ∧ n ≤ high then some (n, cs.drop size) else none

/-- What must come next. -/
def mark? (c : Char) : Input → Option Input
  | d :: rest => if c = d then some rest else none
  | [] => none

/-- The days of a month. -/
def daysIn (year month : Nat) : Nat :=
  if month = 2 then
    if year % 4 = 0 ∧ (year % 100 ≠ 0 ∨ year % 400 = 0) then 29 else 28
  else if month = 4 ∨ month = 6 ∨ month = 9 ∨ month = 11 then 30
  else 31

/-- A date. -/
def date? (cs : Input) : Option Input := do
  let (year, rest) ← field? 4 0 9999 cs
  let (month, rest) ← field? 2 1 12 (← mark? '-' rest)
  let (_, rest) ← field? 2 1 (daysIn year month) (← mark? '-' rest)
  return rest

/-- A time of day. -/
def time? (cs : Input) : Option Input := do
  let (_, rest) ← field? 2 0 23 cs
  let (_, rest) ← field? 2 0 59 (← mark? ':' rest)
  let (_, rest) ← field? 2 0 60 (← mark? ':' rest)
  match rest with
  | '.' :: more =>
    let (ds, rest) := more.span Char.isDigit
    if ds.isEmpty then none else return rest
  | rest => return rest

/-- An offset from universal time. -/
def offset? (cs : Input) : Option Input :=
  match cs with
  | 'Z' :: rest => some rest
  | 'z' :: rest => some rest
  | c :: rest =>
    if c == '+' || c == '-' then do
      let (_, rest) ← field? 2 0 23 rest
      let (_, rest) ← field? 2 0 59 (← mark? ':' rest)
      return rest
    else none
  | [] => none

/-- The end of a date with a time behind it, or of either alone. -/
def momentEnd? (cs : Input) : Option Input :=
  match date? cs with
  | some rest =>
    let timed : Option Input := match rest with
      | c :: more => if c == 'T' || c == 't' || c == ' ' then time? more else none
      | [] => none
    match timed with
    | some rest => some ((offset? rest).getD rest)
    | none => some rest
  | none => time? cs

/-- The key under which a date or time stands in a table of its own. -/
def momentKey : String := "$__toml_private_datetime"

/-- A date or time as it is shown: with capital letters and no blank. -/
def moment (s : String) : String :=
  String.ofList (s.toList.map fun c => if c == ' ' then 'T' else c.toUpper)

/-- A date or time. -/
def moment? (cs : Input) : Option (Setting × Input) :=
  (momentEnd? cs).map fun rest => (.table [(momentKey, .text (moment (taken cs rest)))], rest)

/-! ## Tables under construction -/

/-- How a table came to be. -/
inductive Origin where
  /-- By its own header, or as the document. -/
  | header
  /-- As a step on the way to another header. -/
  | path
  /-- By a key with dots. -/
  | dotted
  deriving DecidableEq, Repr, Inhabited

/-- What a key stands for while a document is read. -/
inductive Node where
  | value (s : Setting)
  | table (origin : Origin) (entries : List (String × Node))
  /-- Tables under one header, the last one first. -/
  | tables (elements : List (Origin × List (String × Node)))
  deriving Inhabited

/-- Entries under construction. -/
abbrev Entries := List (String × Node)

mutual

/-- The setting a node has become. -/
def Node.done : Node → Setting
  | .value s => s
  | .table _ entries => .table (doneEntries entries)
  | .tables elements => .list (doneElements elements).reverse

/-- The settings of entries. -/
def doneEntries : List (String × Node) → List (String × Setting)
  | [] => []
  | (key, node) :: rest => (key, node.done) :: doneEntries rest

/-- The settings of tables under one header. -/
def doneElements : List (Origin × List (String × Node)) → List Setting
  | [] => []
  | (_, entries) :: rest => .table (doneEntries entries) :: doneElements rest

end

/-- Change the table at the end of a path, which is made where it is
missing. `made` tells how such a table came to be; a key with dots does
not go through a table that has a header. -/
def descend (made : Origin) (change : Origin → Entries → Option Entries) :
    List String → Origin → Entries → Option Entries
  | [], origin, entries => change origin entries
  | key :: path, _, entries =>
    match Keyed.find? key entries with
    | none =>
      (descend made change path made []).map fun inner => Keyed.insert key (.table made inner) entries
    | some (.value _) => none
    | some (.table origin inner) =>
      if made = .dotted ∧ origin = .header then none
      else
        (descend made change path origin inner).map fun inner =>
          Keyed.insert key (.table origin inner) entries
    | some (.tables ((origin, inner) :: before)) =>
      (descend made change path origin inner).map fun inner =>
        Keyed.insert key (.tables ((origin, inner) :: before)) entries
    | some (.tables []) => none

/-- Put a value under a key with dots, once. The last table on the way must
have come from a key with dots, exactly if there are dots. -/
def assign (path : List String) (value : Setting) (origin : Origin) (entries : Entries) :
    Option Entries :=
  match path.getLast? with
  | none => none
  | some key =>
    let steps := path.dropLast
    descend .dotted (fun reached entries =>
      if decide (reached = .dotted) == steps.isEmpty then none
      else if (Keyed.find? key entries).isSome then none
      else some (Keyed.insert key (.value value) entries)) steps origin entries

/-- Open a table by its header. -/
def openTable (key : String) (body : Origin → Entries → Option Entries) (entries : Entries) :
    Option Entries :=
  let close (inner : Entries) : Option Entries :=
    (body .header inner).map fun inner => Keyed.insert key (.table .header inner) entries
  match Keyed.find? key entries with
  | none => close []
  | some (.table .path inner) => close inner
  | some _ => none

/-- Open one more table of those under a header. -/
def openElement (key : String) (body : Origin → Entries → Option Entries) (entries : Entries) :
    Option Entries :=
  let close (before : List (Origin × Entries)) : Option Entries :=
    (body .header []).map fun inner =>
      Keyed.insert key (.tables ((.header, inner) :: before)) entries
  match Keyed.find? key entries with
  | none => close []
  | some (.tables before) => close before
  | some _ => none

/-! ## Values -/

/-- The table between braces that its keys and values give. -/
def inlineTable? (pairs : List (List String × Setting)) : Option Setting :=
  (pairs.foldlM (fun entries p => assign p.1 p.2 .header entries) []).map fun entries =>
    .table (doneEntries entries)

mutual

/-- A value; the first number is how deep lists and tables in it may be
nested. -/
def value? : Nat → Nat → Input → Option (Setting × Input)
  | _, 0, _ => none
  | 0, _, '[' :: _ => none
  | 0, _, '\x7b' :: _ => none
  | depth, n + 1, cs =>
    match cs with
    | '[' :: rest => (items? (depth - 1) n (gap rest.length rest)).map fun p => (.list p.1, p.2)
    | '\x7b' :: rest => do
      let (pairs, rest) ← match blanks rest with
        | '\x7d' :: rest => some ([], rest)
        | rest => pairs? (depth - 1) n rest
      return (← inlineTable? pairs, rest)
    | 't' :: 'r' :: 'u' :: 'e' :: rest => some (.flag true, rest)
    | 'f' :: 'a' :: 'l' :: 's' :: 'e' :: rest => some (.flag false, rest)
    | cs =>
      match cs with
      | '"' :: _ => (string? cs).map fun p => (.text p.1, p.2)
      | '\'' :: _ => (string? cs).map fun p => (.text p.1, p.2)
      | cs =>
        match moment? cs with
        | some found => some found
        | none => number? cs

/-- The items of a list up to its bracket. -/
def items? : Nat → Nat → Input → Option (List Setting × Input)
  | _, 0, _ => none
  | depth, n + 1, cs =>
    match cs with
    | ']' :: rest => some ([], rest)
    | cs => do
      let (item, rest) ← value? depth n cs
      match gap rest.length rest with
      | ',' :: rest =>
        let (more, rest) ← items? depth n (gap rest.length rest)
        return (item :: more, rest)
      | ']' :: rest => return ([item], rest)
      | _ => none

/-- The keys and values of a table between braces. -/
def pairs? : Nat → Nat → Input → Option (List (List String × Setting) × Input)
  | _, 0, _ => none
  | depth, n + 1, cs => do
    let (pair, rest) ← pair? depth n cs
    match blanks rest with
    | ',' :: rest =>
      let (more, rest) ← pairs? depth n rest
      return (pair :: more, rest)
    | '\x7d' :: rest => return ([pair], rest)
    | _ => none

/-- A key with its value. -/
def pair? : Nat → Nat → Input → Option ((List String × Setting) × Input)
  | _, 0, _ => none
  | depth, n + 1, cs => do
    let (key, rest) ← dottedKey? depthLimit cs
    let rest ← mark? '=' rest
    let (value, rest) ← value? depth n (blanks rest)
    return ((key, value), rest)

end

/-! ## Documents -/

/-- A line of a document that says something. -/
inductive Statement where
  | header (path : List String)
  | element (path : List String)
  | entry (path : List String) (value : Setting)

/-- The statement a line starts with. -/
def statement? (cs : Input) : Option (Statement × Input) :=
  match cs with
  | '[' :: '[' :: rest => do
    let (path, rest) ← dottedKey? depthLimit rest
    return (.element path, ← mark? ']' (← mark? ']' rest))
  | '[' :: rest => do
    let (path, rest) ← dottedKey? depthLimit rest
    return (.header path, ← mark? ']' rest)
  | cs => do
    let (pair, rest) ← pair? depthLimit (3 * cs.length + 3) cs
    return (.entry pair.1 pair.2, rest)

/-- The statements of a text. -/
def statements? : Nat → Input → Option (List Statement)
  | 0, _ => none
  | n + 1, cs =>
    match gap cs.length cs with
    | [] => some []
    | cs => do
      let (first, rest) ← statement? cs
      let rest ← endOfLine? rest
      return first :: (← statements? n rest)

/-- The entries that follow a header, and the statements after them. -/
def entriesUnder : List Statement → List (List String × Setting) × List Statement
  | .entry path value :: rest =>
    let (entries, rest) := entriesUnder rest
    ((path, value) :: entries, rest)
  | rest => ([], rest)

/-- Put entries into a table. -/
def fill (pairs : List (List String × Setting)) (origin : Origin) (entries : Entries) :
    Option Entries :=
  pairs.foldlM (fun entries p => assign p.1 p.2 origin entries) entries

/-- Put the tables of headers into a document. -/
def placeAll : Nat → List Statement → Entries → Option Entries
  | 0, _, _ => none
  | _, [], entries => some entries
  | n + 1, .entry path value :: rest, entries => do
    placeAll n rest (← assign path value .header entries)
  | n + 1, .header path :: rest, entries => do
    let (pairs, rest) := entriesUnder rest
    placeAll n rest (← place openTable path pairs entries)
  | n + 1, .element path :: rest, entries => do
    let (pairs, rest) := entriesUnder rest
    placeAll n rest (← place openElement path pairs entries)
where
  place (opened : String → (Origin → Entries → Option Entries) → Entries → Option Entries)
      (path : List String) (pairs : List (List String × Setting)) (entries : Entries) :
      Option Entries := do
    let key ← path.getLast?
    descend .path (fun _ inner => opened key (fill pairs) inner) path.dropLast .header entries

/-- The table a text stands for. -/
def read? (text : String) : Option Setting := do
  let cs := text.toList
  let cs := if cs.head? = some '\uFEFF' then cs.tail else cs
  let lines ← statements? (cs.length + 1) cs
  let entries ← placeAll (lines.length + 1) lines []
  return .table (doneEntries entries)

end Toml

end Turnstile
