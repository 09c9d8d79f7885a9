/-!
# Blank characters

The characters with the Unicode property `White_Space`, and trimming
them from the ends of a text.
-/

namespace Turnstile

namespace Text

/-- The property `White_Space`. -/
def isBlank (c : Char) : Bool :=
  let n := c.toNat
  (0x9 ≤ n && n ≤ 0xD) || n == 0x20 || n == 0x85 || n == 0xA0 || n == 0x1680 ||
  (0x2000 ≤ n && n ≤ 0x200A) || n == 0x2028 || n == 0x2029 || n == 0x202F ||
  n == 0x205F || n == 0x3000

/-- Drop from the end of a list while `p` holds. -/
def dropEndWhile (p : Char → Bool) (cs : List Char) : List Char :=
  (cs.reverse.dropWhile p).reverse

/-- Both ends trimmed of characters that satisfy `p`. -/
def trimWhere (p : Char → Bool) (s : String) : String :=
  String.ofList (dropEndWhile p (s.toList.dropWhile p))

/-- Both ends trimmed of blanks. -/
def trim (s : String) : String := trimWhere isBlank s

/-- The start trimmed of characters that satisfy `p`. -/
def trimStart (p : Char → Bool) (s : String) : String :=
  String.ofList (s.toList.dropWhile p)

/-- The end trimmed of characters that satisfy `p`. -/
def trimEnd (p : Char → Bool) (s : String) : String :=
  String.ofList (dropEndWhile p s.toList)

/-- Nothing but blanks. -/
def allBlank (s : String) : Bool := s.toList.all isBlank

/-- `rest` of `p ++ rest`, on character lists. -/
def stripList? : List Char → List Char → Option (List Char)
  | [], cs => some cs
  | _ :: _, [] => none
  | p :: ps, c :: cs => if p = c then stripList? ps cs else none

/-- What follows `lead` in `s`, if `s` begins with it. -/
def strip? (lead s : String) : Option String :=
  (stripList? lead.toList s.toList).map String.ofList

/-- `s` begins with `lead`. -/
def startsWith (s lead : String) : Bool := lead.toList.isPrefixOf s.toList

/-- `s` ends with `tail`. -/
def endsWith (s tail : String) : Bool := tail.toList.isSuffixOf s.toList

/-- Split a list at every element that satisfies `p`, dropping those. -/
def splitListAt {α : Type} (p : α → Bool) : List α → List (List α)
  | [] => [[]]
  | x :: xs =>
    match splitListAt p xs with
    | [] => [[]]
    | piece :: pieces => if p x then [] :: piece :: pieces else (x :: piece) :: pieces

/-- The pieces of `s` between occurrences of the character `sep`. -/
def splitOn (s : String) (sep : Char) : List String :=
  (splitListAt (· == sep) s.toList).map String.ofList

/-- The pieces joined with `sep` between neighbours. -/
def join (sep : String) : List String → String
  | [] => ""
  | [s] => s
  | s :: rest => s ++ sep ++ join sep rest

/-- `needle` occurs in the list. -/
def occursIn (needle : List Char) : List Char → Bool
  | [] => needle.isEmpty
  | c :: cs => needle.isPrefixOf (c :: cs) || occursIn needle cs

theorem occursIn_iff {needle cs : List Char} : occursIn needle cs = true ↔ needle <:+: cs := by
  induction cs with
  | nil => rw [occursIn, List.isEmpty_iff, List.infix_nil]
  | cons c cs ih =>
    rw [occursIn, Bool.or_eq_true, List.isPrefixOf_iff_prefix, ih, List.infix_cons_iff]

/-- `needle` occurs in `s`. -/
def contains (s needle : String) : Bool := occursIn needle.toList s.toList

/-- Replace every non-overlapping occurrence of `old`, left to right. The
fuel is the length of the text. -/
def replaceList (old new : List Char) : Nat → List Char → List Char
  | 0, cs => cs
  | _ + 1, [] => []
  | n + 1, c :: cs =>
    match stripList? old (c :: cs) with
    | some rest => new ++ replaceList old new n rest
    | none => c :: replaceList old new n cs

/-- `s` with every occurrence of a non-empty `old` replaced. -/
def replace (s old new : String) : String :=
  if old.isEmpty then s
  else String.ofList (replaceList old.toList new.toList (s.length + 1) s.toList)

end Text

end Turnstile
