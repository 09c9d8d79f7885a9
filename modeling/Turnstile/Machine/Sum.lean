import Turnstile.Text.Blank
/-!
# Sums of the shell

Integer expressions, read and valued at once. Operators bind by level,
loosest first; a name stands for the value of its variable.
-/

namespace Turnstile

namespace Sum

/-- Operators of two operands by level, loosest first. -/
def levels : List (List String) :=
  [["||"], ["&&"], ["|"], ["^"], ["&"], ["==", "!="], ["<=", ">=", "<", ">"], ["+", "-"],
    ["*", "/", "%"]]

/-- A truth value as a number. -/
def truth (b : Bool) : Int := if b then 1 else 0

/-- The value of an operator; dividing by nought has none. -/
def apply (op : String) (a b : Int) : Option Int :=
  match op with
  | "||" => some (truth (a != 0 || b != 0))
  | "&&" => some (truth (a != 0 && b != 0))
  | "|" => some (Int.ofNat (a.toNat ||| b.toNat))
  | "^" => some (Int.ofNat (a.toNat ^^^ b.toNat))
  | "&" => some (Int.ofNat (a.toNat &&& b.toNat))
  | "==" => some (truth (a == b))
  | "!=" => some (truth (a != b))
  | "<=" => some (truth (decide (a ≤ b)))
  | ">=" => some (truth (decide (b ≤ a)))
  | "<" => some (truth (decide (a < b)))
  | ">" => some (truth (decide (b < a)))
  | "+" => some (a + b)
  | "-" => some (a - b)
  | "*" => some (a * b)
  | "/" => if b = 0 then none else some (a.tdiv b)
  | "%" => if b = 0 then none else some (a.tmod b)
  | _ => none

/-- Leading blanks dropped. -/
def skip (cs : List Char) : List Char := cs.dropWhile Text.isBlank

/-- The operator of a level in front. A longer operator is not cut. -/
def operator? (ops : List String) (cs : List Char) : Option (String × List Char) :=
  match ops.find? fun op => op.toList.isPrefixOf cs with
  | none => none
  | some op =>
    let rest := cs.drop op.length
    if op.length = 1 && (rest.head? == some '=' || (rest.head? == op.toList.head? && "|&<>".toList.contains (op.toList.headD ' '))) then none
    else some (op, rest)

mutual

/-- The value of an expression of the given levels, and what follows. -/
def value (look : String → Int) : Nat → List (List String) → List Char → Option (Int × List Char)
  | 0, _, _ => none
  | n + 1, [], cs => operand look n (skip cs)
  | n + 1, ops :: tighter, cs => do
    let (first, rest) ← value look n tighter cs
    chain look n ops tighter first rest

/-- Further operands of a level. -/
def chain (look : String → Int) : Nat → List String → List (List String) → Int → List Char →
    Option (Int × List Char)
  | 0, _, _, _, _ => none
  | n + 1, ops, tighter, first, cs =>
    match operator? ops (skip cs) with
    | none => some (first, cs)
    | some (op, rest) => do
      let (second, rest) ← value look n tighter rest
      chain look n ops tighter (← apply op first second) rest

/-- A number, a name, a sign or an expression in parentheses. -/
def operand (look : String → Int) : Nat → List Char → Option (Int × List Char)
  | 0, _ => none
  | n + 1, cs =>
    match cs with
    | '(' :: rest => do
      let (v, rest) ← value look n levels rest
      match skip rest with
      | ')' :: rest => some (v, rest)
      | _ => none
    | '-' :: rest => (operand look n (skip rest)).map fun p => (-p.1, p.2)
    | '+' :: rest => operand look n (skip rest)
    | '!' :: rest => (operand look n (skip rest)).map fun p => (truth (p.1 == 0), p.2)
    | c :: _ =>
      if c.isDigit then
        let (digits, rest) := cs.span Char.isDigit
        some (digits.foldl (fun v d => v * 10 + (d.toNat - 48 : Nat)) 0, rest)
      else if c.isAlpha || c == '_' then
        let (name, rest) := cs.span fun c => c.isAlphanum || c == '_'
        some (look (String.ofList name), rest)
      else none
    | [] => some (0, [])

end

/-- The value of an expression. -/
def eval? (look : String → Int) (text : String) : Option Int :=
  let cs := text.toList
  match value look (32 * (cs.length + 1)) levels cs with
  | some (v, rest) => if (skip rest).isEmpty then some v else none
  | none => none

end Sum

end Turnstile
