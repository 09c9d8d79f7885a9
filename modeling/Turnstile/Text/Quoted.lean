import Turnstile.Text.Blank
/-!
# Quoted text

A text in quotation marks as it is shown in diagnostics: quotation marks,
the reverse solidus and characters that would not show are escaped.
-/

namespace Turnstile

namespace Text

/-- Hexadecimal digits of a number, small letters. -/
def hex (n : Nat) : String := String.ofList (Nat.toDigits 16 n)

/-- Characters that would not show on their own: controls, format
characters, separators other than the blank, surrogates, private use and
the ends of planes. -/
def isHidden (c : Char) : Bool :=
  let n := c.toNat
  n < 0x20 || (0x7F ≤ n && n < 0xA0) || n == 0xAD || n == 0x378 || n == 0x379 ||
  (0x600 ≤ n && n ≤ 0x605) || n == 0x61C || n == 0x6DD || n == 0x70F || n == 0x1680 ||
  n == 0x180E || (0x2000 ≤ n && n ≤ 0x200F) || (0x2028 ≤ n && n ≤ 0x202F) ||
  (0x205F ≤ n && n ≤ 0x206F) || n == 0x3000 || (0xE000 ≤ n && n ≤ 0xF8FF) || n == 0xFEFF ||
  (0xFFF0 ≤ n && n ≤ 0xFFFB) || (0xFFFE ≤ n && n ≤ 0xFFFF) || (0xE0000 ≤ n)

/-- Combining marks, which would attach to the quotation mark. -/
def isCombining (c : Char) : Bool :=
  let n := c.toNat
  (0x300 ≤ n && n ≤ 0x36F) || (0x483 ≤ n && n ≤ 0x489) || (0x591 ≤ n && n ≤ 0x5BD) ||
  (0x610 ≤ n && n ≤ 0x61A) || (0x64B ≤ n && n ≤ 0x65F) || (0x1AB0 ≤ n && n ≤ 0x1ACE) ||
  (0x1DC0 ≤ n && n ≤ 0x1DFF) || (0x20D0 ≤ n && n ≤ 0x20F0) || (0x3099 ≤ n && n ≤ 0x309A) ||
  (0xFE00 ≤ n && n ≤ 0xFE0F) || (0xFE20 ≤ n && n ≤ 0xFE2F) || n == 0x200C

/-- One character inside quotation marks. -/
def showChar (c : Char) : String :=
  match c with
  | '\x00' => "\\0"
  | '\t' => "\\t"
  | '\n' => "\\n"
  | '\r' => "\\r"
  | '"' => "\\\""
  | '\\' => "\\\\"
  | c =>
    if isHidden c || isCombining c then "\\u\x7b" ++ hex c.toNat ++ "\x7d"
    else String.singleton c

/-- A text in quotation marks. -/
def quote (s : String) : String :=
  "\"" ++ s.toList.foldl (fun acc c => acc ++ showChar c) "" ++ "\""

/-- Texts in quotation marks as a bracketed list. -/
def quoteList (items : List String) : String :=
  "[" ++ Text.join ", " (items.map quote) ++ "]"

end Text

end Turnstile
