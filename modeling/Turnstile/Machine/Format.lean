import Turnstile.Text.Blank
import Turnstile.Text.Utf8
/-!
# Formatted output of utilities

Backslash escapes, and the formats of `printf`.
-/

namespace Turnstile

namespace Format

/-- The digit of a number in a base up to sixteen. -/
def digit? (base : Nat) (c : Char) : Option Nat :=
  let value :=
    if '0' ≤ c ∧ c ≤ '9' then c.toNat - 48
    else if 'a' ≤ c ∧ c ≤ 'f' then c.toNat - 87
    else if 'A' ≤ c ∧ c ≤ 'F' then c.toNat - 55
    else base
  if value < base then some value else none

/-- At most `n` digits in front. -/
def digits (base : Nat) : Nat → List Char → Nat → Nat × List Char
  | 0, cs, value => (value, cs)
  | _, [], value => (value, [])
  | n + 1, c :: rest, value =>
    match digit? base c with
    | some d => digits base n rest (value * base + d)
    | none => (value, c :: rest)

/-- The bytes of a character. -/
def bytesOf (c : Char) : Bytes := Utf8.encode (String.singleton c)

/-- The character an escape of one letter stands for. -/
def letter? : Char → Option UInt8
  | 'a' => some 7
  | 'b' => some 8
  | 'f' => some 12
  | 'n' => some 10
  | 'r' => some 13
  | 't' => some 9
  | 'v' => some 11
  | '\\' => some 92
  | _ => none

/-- Undo escapes; `zero` tells that octal ones start with a nought. The
flag says that output ends here. Fuel is the length of the text. -/
def escapes (zero : Bool) : Nat → List Char → Bytes × Bool
  | 0, _ => ([], false)
  | _, [] => ([], false)
  | n + 1, '\\' :: c :: rest =>
    let more (bytes : Bytes) (rest : List Char) : Bytes × Bool :=
      let (tail, stop) := escapes zero n rest
      (bytes ++ tail, stop)
    match letter? c with
    | some b => more [b] rest
    | none =>
      if c == 'c' && zero then ([], true)
      else if c == '0' && zero then
        let (value, rest) := digits 8 3 rest 0
        more [UInt8.ofNat value] rest
      else if !zero && (digit? 8 c).isSome then
        let (value, rest) := digits 8 3 (c :: rest) 0
        more [UInt8.ofNat value] rest
      else if !zero && c == '"' then more [34] rest
      else more (92 :: bytesOf c) rest
  | n + 1, c :: rest =>
    let (tail, stop) := escapes zero n rest
    (bytesOf c ++ tail, stop)

/-- Undo the escapes of a text. -/
def unescape (zero : Bool) (s : String) : Bytes × Bool :=
  escapes zero (s.length + 1) s.toList

/-- A directive of a format. -/
structure Directive where
  left : Bool
  zeros : Bool
  plus : Bool
  width : Nat
  precision : Option Nat
  kind : Char

/-- Read flags, width, precision and kind. -/
def directive (cs : List Char) : Directive × List Char :=
  let (flags, rest) := cs.span fun c => "-0+ #".toList.contains c
  let (width, rest) := digits 10 rest.length rest 0
  let (precision, rest) : Option Nat × List Char := match rest with
    | '.' :: rest =>
      let (p, rest) := digits 10 rest.length rest 0
      (some p, rest)
    | rest => (none, rest)
  ({ left := flags.contains '-', zeros := flags.contains '0', plus := flags.contains '+'
     width, precision, kind := rest.headD '%' }, rest.drop 1)

/-- Fill up to the width. -/
def Directive.pad (d : Directive) (bytes : Bytes) : Bytes :=
  let missing := d.width - bytes.length
  if d.left then bytes ++ List.replicate missing 32
  else if d.zeros && d.kind != 's' then List.replicate missing 48 ++ bytes
  else List.replicate missing 32 ++ bytes

/-- The integer a text stands for. -/
def integer? (s : String) : Option Int :=
  let natural (cs : List Char) : Option Int :=
    let (base, cs) := match cs with
      | '0' :: 'x' :: rest => (16, rest)
      | '0' :: c :: rest => (8, c :: rest)
      | cs => (10, cs)
    if cs.isEmpty then none
    else
      let (value, rest) := digits base cs.length cs 0
      if rest.isEmpty then some value else none
  match s.toList with
  | '-' :: rest => (natural rest).map (- ·)
  | '+' :: rest => natural rest
  | [] => some 0
  | cs => natural cs

/-- What a directive makes of an argument, and whether output ends. -/
def Directive.apply (d : Directive) (arg : String) : Bytes × Bool :=
  let signed (n : Int) : String := (if d.plus && 0 ≤ n then "+" else "") ++ toString n
  let inBase (base : Nat) (n : Int) : String :=
    String.ofList (Nat.toDigits base (if n < 0 then n + Nat.pow 2 64 else n).toNat)
  let number := (integer? arg).getD 0
  match d.kind with
  | 's' =>
    let bytes := Utf8.encode arg
    (d.pad (match d.precision with | some p => bytes.take p | none => bytes), false)
  | 'b' =>
    let (bytes, stop) := unescape true arg
    (d.pad bytes, stop)
  | 'c' => (d.pad ((Utf8.encode arg).take 1), false)
  | 'd' | 'i' => (d.pad (Utf8.encode (signed number)), false)
  | 'u' => (d.pad (Utf8.encode (inBase 10 number)), false)
  | 'x' => (d.pad (Utf8.encode (inBase 16 number)), false)
  | 'X' => (d.pad (Utf8.encode ((inBase 16 number).map Char.toUpper)), false)
  | 'o' => (d.pad (Utf8.encode (inBase 8 number)), false)
  | _ => ([], false)

/-- One pass over a format: the output, the arguments left, whether
output ends. -/
def pass : Nat → List Char → List String → Bytes × List String × Bool
  | 0, _, args => ([], args, false)
  | _, [], args => ([], args, false)
  | n + 1, '%' :: '%' :: rest, args =>
    let (tail, args, stop) := pass n rest args
    (37 :: tail, args, stop)
  | n + 1, '%' :: rest, args =>
    let (d, rest) := directive rest
    let (out, stop) := d.apply (args.headD "")
    if stop then (out, [], true)
    else
      let (tail, args, stop) := pass n rest args.tail
      (out ++ tail, args, stop)
  | n + 1, '\\' :: rest, args =>
    let taken := match rest with
      | c :: _ =>
        if (digit? 8 c).isSome then rest.length - (digits 8 3 rest 0).2.length else 1
      | [] => 0
    let (out, _) := escapes false (taken + 2) ('\\' :: rest.take taken)
    let (tail, args, stop) := pass n (rest.drop taken) args
    (out ++ tail, args, stop)
  | n + 1, c :: rest, args =>
    let (tail, args, stop) := pass n rest args
    (bytesOf c ++ tail, args, stop)

/-- The output of a format; it is used again while arguments are left. -/
def printf (format : String) : Nat → List String → Bytes
  | 0, _ => []
  | n + 1, args =>
    let (out, left, stop) := pass (format.length + 1) format.toList args
    if stop || left.isEmpty || left.length == args.length then out
    else out ++ printf format n left

end Format

end Turnstile
