import Turnstile.Keyed
import Turnstile.Number.Binary
/-!
# JSON values

Free-form JSON. Objects keep their fields in strictly increasing key
order, so a value has one representation; `Json.ofFields` brings fields
into that order. Numbers are integers where the text wrote an integer that
fits 64 bits, and double-precision values otherwise.
-/

namespace Turnstile

/-- A JSON number. -/
inductive Number where
  | int (n : Int)
  | float (x : Binary)
  deriving DecidableEq, Repr, Inhabited

/-- A JSON value. -/
inductive Json where
  | null
  | bool (b : Bool)
  | num (n : Number)
  | str (s : String)
  | arr (items : List Json)
  | obj (fields : List (String × Json))
  deriving Repr, Inhabited

namespace Json

/-- An object from fields in any order; of equal keys the last one stands. -/
def ofFields (fields : List (String × Json)) : Json :=
  .obj (Keyed.ofList fields)

/-- The empty object. -/
def empty : Json := .obj []

/-- An integer. -/
def int (n : Int) : Json := .num (.int n)

/-- A natural number. -/
def nat (n : Nat) : Json := .num (.int n)

/-- The field of an object. -/
def get? (key : String) : Json → Option Json
  | .obj fields => Keyed.find? key fields
  | _ => none

/-- The text of a string. -/
def asString? : Json → Option String
  | .str s => some s
  | _ => none

/-- The value of an integer within 64 signed bits. -/
def asInt64? : Json → Option Int
  | .num (.int n) => if -(Nat.pow 2 63 : Int) ≤ n ∧ n < Nat.pow 2 63 then some n else none
  | _ => none

/-- The value is `null`. -/
def isNull : Json → Bool
  | .null => true
  | _ => false

/-- The value is an object. -/
def isObject : Json → Bool
  | .obj _ => true
  | _ => false

end Json

end Turnstile
