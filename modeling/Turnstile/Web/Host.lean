import Turnstile.Text.Blank
import Turnstile.Text.Case
import Turnstile.Text.Utf8
import Turnstile.Web.Punycode
/-!
# Hosts

The host of a URL: a name in ASCII, or an address of version 4 or 6. A
name whose last label is a number is an address of version 4.
-/

namespace Turnstile

/-- Why a text is no URL. -/
inductive UrlError where
  | emptyHost
  | badName
  | badPort
  | badAddress4
  | badAddress6
  | badCharacter
  | relativeWithoutBase
  | baseCannotBeABase
  deriving DecidableEq, Repr, Inhabited

namespace UrlError

/-- The message. -/
def message : UrlError → String
  | .emptyHost => "empty host"
  | .badName => "invalid international domain name"
  | .badPort => "invalid port number"
  | .badAddress4 => "invalid IPv4 address"
  | .badAddress6 => "invalid IPv6 address"
  | .badCharacter => "invalid domain character"
  | .relativeWithoutBase => "relative URL without a base"
  | .baseCannotBeABase => "relative URL with a cannot-be-a-base base"

end UrlError

/-- A host. -/
inductive Host where
  | name (name : String)
  | v4 (value : Nat)
  /-- Eight pieces of sixteen bits. -/
  | v6 (pieces : List Nat)
  deriving DecidableEq, Repr, Inhabited

namespace Percent

/-- The value of a hexadecimal digit. -/
def hexValue? (c : Char) : Option Nat :=
  if '0' ≤ c ∧ c ≤ '9' then some (c.toNat - 48)
  else if 'a' ≤ c ∧ c ≤ 'f' then some (c.toNat - 87)
  else if 'A' ≤ c ∧ c ≤ 'F' then some (c.toNat - 55)
  else none

/-- Undo percent signs; one that no two digits follow stands for itself. -/
def decode : List Char → Bytes
  | '%' :: a :: b :: rest =>
    match hexValue? a, hexValue? b with
    | some x, some y => UInt8.ofNat (x * 16 + y) :: decode rest
    | _, _ => 37 :: decode (a :: b :: rest)
  | c :: rest => Utf8.encode (String.singleton c) ++ decode rest
  | [] => []

/-- A hexadecimal digit. -/
def digit (n : Nat) : Char := if n < 10 then Char.ofNat (48 + n) else Char.ofNat (55 + n)

/-- One byte behind a percent sign. -/
def byte (b : UInt8) : List Char := ['%', digit (b.toNat / 16), digit (b.toNat % 16)]

/-- Put every character that must not stand behind percent signs. -/
def encode (escaped : Char → Bool) (cs : List Char) : List Char :=
  cs.flatMap fun c =>
    if c.toNat < 32 || 127 ≤ c.toNat || escaped c then
      (Utf8.encode (String.singleton c)).flatMap byte
    else [c]

end Percent

namespace Host

/-! ## Names -/

/-- A character that no name may hold. -/
def isForbidden (c : Char) : Bool :=
  c.toNat ≤ 32 || c.toNat == 127 || c == '\uFFFD' || "#/:<>?@[\\]^|%".toList.contains c

/-- A character that is dropped from names. -/
def isIgnored (c : Char) : Bool :=
  let n := c.toNat
  n == 0xAD || n == 0x200B || n == 0x2060 || n == 0xFEFF || n == 0x034F ||
  (0x180B ≤ n && n ≤ 0x180F) || (0xFE00 ≤ n && n ≤ 0xFE0F)

/-- A character as it counts in names: in small letters and of normal
width, with every full stop a dot. Other compatibility forms, such as
letters in circles, are not resolved. -/
def mapped (c : Char) : Char :=
  let n := c.toNat
  if n == 0x3002 || n == 0xFF61 then '.'
  else if 0xFF01 ≤ n && n ≤ 0xFF5E then Text.lowerChar (Char.ofNat (n - 0xFEE0))
  else Text.lowerChar c

/-- The characters that an ASCII form may stand for: not all of them ASCII,
none of them a control character, and each as it counts in names. -/
def isFormed (cs : List Char) : Bool :=
  cs.any (fun c => 128 ≤ c.toNat) &&
    cs.all fun c => !(127 ≤ c.toNat && c.toNat < 160) && !isIgnored c && mapped c == c

/-- A label in ASCII. What already is in the ASCII form must be the form of
something. -/
def labelToAscii (label : List Char) : Option (List Char) :=
  if label.all (fun c => c.toNat < 128) then
    match Text.stripList? "xn--".toList label with
    | none => some label
    | some form =>
      match Punycode.decode? form with
      | some cs => if isFormed cs then some label else none
      | none => none
  else some ("xn--".toList ++ Punycode.encode label)

/-- A name in ASCII and small letters. -/
def nameToAscii (name : List Char) : Except UrlError (List Char) :=
  let cs := (name.filter fun c => !isIgnored c).map mapped
  match (Text.splitListAt (· == '.') cs).mapM labelToAscii with
  | none => .error .badName
  | some labels =>
    let ascii := ['.'].intercalate labels
    if ascii.any isForbidden then .error .badName else .ok ascii

/-! ## Addresses of version 4 -/

/-- The number in a part of an address: hexadecimal behind `0x`, octal
behind `0`. -/
def number4? (part : List Char) : Option Nat :=
  let read (base : Nat) (digits : List Char) : Option Nat :=
    digits.foldlM (fun n c => do
      let d ← Percent.hexValue? c
      if d < base then some (n * base + d) else none) 0
  match part with
  | [] => none
  | '0' :: x :: rest => if x = 'x' ∨ x = 'X' then read 16 rest else read 8 (x :: rest)
  | digits => read 10 digits

/-- The labels of a name, a final dot aside. -/
def labels4 (name : List Char) : List (List Char) :=
  let labels := Text.splitListAt (· == '.') name
  if 1 < labels.length ∧ labels.getLast? = some [] then labels.dropLast else labels

/-- The last label is a number. -/
def endsInNumber (name : List Char) : Bool :=
  match (labels4 name).getLast? with
  | none | some [] => false
  | some last =>
    last.all (fun c => '0' ≤ c ∧ c ≤ '9') ||
    ((last.take 2 == ['0', 'x'] || last.take 2 == ['0', 'X']) && (number4? last).isSome)

/-- An address of up to four numbers; the last one fills what is left. -/
def address4 (name : List Char) : Except UrlError Host :=
  let labels := labels4 name
  match labels.mapM number4? with
  | none => .error .badAddress4
  | some numbers =>
    let last := numbers.getLastD 0
    let lead := numbers.dropLast
    if 4 < numbers.length ∨ lead.any (255 < ·) ∨ Nat.pow 256 (5 - numbers.length) ≤ last then
      .error .badAddress4
    else
      .ok (.v4 (lead.zipIdx.foldl (fun n p => n + p.1 * Nat.pow 256 (3 - p.2)) last))

/-- An address of version 4 as a text. -/
def text4 (value : Nat) : String :=
  Text.join "." ([3, 2, 1, 0].map fun i => toString (value / Nat.pow 256 i % 256))

/-! ## Addresses of version 6 -/

/-- One piece of up to four digits. -/
def piece6? (part : List Char) : Option Nat :=
  if part.isEmpty ∨ 4 < part.length then none
  else part.foldlM (fun n c => (Percent.hexValue? c).map (n * 16 + ·)) 0

/-- Four small numbers at the end of an address, as two pieces. -/
def tail4? (part : List Char) : Option (List Nat) := do
  let numbers ← (Text.splitListAt (· == '.') part).mapM fun label =>
    if label.isEmpty || !label.all (fun c => '0' ≤ c ∧ c ≤ '9') ||
        (1 < label.length && label.head? == some '0') then none
    else
      let n := label.foldl (fun n c => n * 10 + (c.toNat - 48)) 0
      if n ≤ 255 then some n else none
  match numbers with
  | [a, b, c, d] => some [a * 256 + b, c * 256 + d]
  | _ => none

/-- Pieces between colons; the last part may be of version 4. -/
def pieces6? : List (List Char) → Option (List Nat)
  | [] => some []
  | [last] => if last.contains '.' then tail4? last else (piece6? last).map ([·])
  | part :: rest => do return (← piece6? part) :: (← pieces6? rest)

/-- The pieces of a side of the double colon; an empty side has none. -/
def side6? (side : List Char) : Option (List Nat) :=
  if side.isEmpty then some [] else pieces6? (Text.splitListAt (· == ':') side)

/-- Cut at the first double colon. -/
def cutDoubleColon : List Char → Option (List Char × List Char)
  | ':' :: ':' :: rest => some ([], rest)
  | c :: rest => (cutDoubleColon rest).map fun p => (c :: p.1, p.2)
  | [] => none

/-- An address of version 6, without its brackets. -/
def address6 (text : List Char) : Except UrlError Host :=
  let pieces : Option (List Nat) :=
    match cutDoubleColon text with
    | none => do
      let pieces ← side6? text
      if pieces.length = 8 then some pieces else none
    | some (before, after) => do
      if before.contains '.' then none
      let head ← side6? before
      let tail ← side6? after
      let missing := 8 - (head.length + tail.length)
      if missing = 0 then none else some (head ++ List.replicate missing 0 ++ tail)
  match pieces with
  | some pieces => .ok (.v6 pieces)
  | none => .error .badAddress6

/-- How many pieces from the front are nought. -/
def zerosAhead (pieces : List Nat) : Nat := (pieces.takeWhile (· == 0)).length

/-- Where the first longest run of noughts starts and how long it is. -/
def longestZeros : Nat → List Nat → Nat × Nat
  | _, [] => (0, 0)
  | i, p :: rest =>
    let here := zerosAhead (p :: rest)
    let later := longestZeros (i + 1) rest
    if later.2 ≤ here then (i, here) else later

/-- A number in hexadecimal digits. -/
def hexText (n : Nat) : String := String.ofList (Nat.toDigits 16 n)

/-- An address of version 6 as a text; the first longest run of two or
more noughts is left out. -/
def text6 (pieces : List Nat) : String :=
  let (start, count) := longestZeros 0 pieces
  if count < 2 then Text.join ":" (pieces.map hexText)
  else
    Text.join ":" ((pieces.take start).map hexText) ++ "::" ++
      Text.join ":" ((pieces.drop (start + count)).map hexText)

/-! ## Hosts -/

/-- The host a text of a URL of a common scheme names. -/
def parse (text : List Char) : Except UrlError Host :=
  match text with
  | '[' :: rest =>
    if rest.getLast? = some ']' then address6 rest.dropLast else .error .badAddress6
  | _ =>
    match nameToAscii (Utf8.decodeLossy (Percent.decode text)).toList with
    | .error e => .error e
    | .ok [] => .error .emptyHost
    | .ok ascii =>
      if endsInNumber ascii then address4 ascii else .ok (.name (String.ofList ascii))

/-- The host a text of a URL of another scheme names, kept as it is. -/
def parseVerbatim (text : List Char) : Except UrlError Host :=
  match text with
  | '[' :: rest =>
    if rest.getLast? = some ']' then address6 rest.dropLast else .error .badAddress6
  | _ =>
    if text.any fun c => c == '\x00' || "\t\n\r #/:<>?@[\\]^|".toList.contains c then
      .error .badCharacter
    else .ok (.name (String.ofList (Percent.encode (fun _ => false) text)))

/-- The host as it stands in a URL. -/
def text : Host → String
  | .name written => written
  | .v4 value => text4 value
  | .v6 pieces => "[" ++ text6 pieces ++ "]"

end Host

end Turnstile
