import Turnstile.Config.Basic
import Turnstile.Sandbox.Basic
import Turnstile.Vendor.Chat
/-!
# Troubles

A failure that ends the program, with what caused it, and how both are
shown: one cause is set in, several are numbered.
-/

namespace Turnstile

/-- A failure and its causes, the nearest first. -/
structure Trouble where
  message : String
  causes : List String
  deriving DecidableEq, Repr, Inhabited

namespace Trouble

/-- A failure without a cause. -/
def plain (message : String) : Trouble := ⟨message, []⟩

/-- What was being done when a failure happened. -/
def during (t : Trouble) (what : String) : Trouble := ⟨what, t.message :: t.causes⟩

/-- What a refusal was caused by. -/
def refusalCauses : PathRefusal → List String
  | .unresolved _ cause => [cause.message]
  | _ => []

/-- The failure of a sandbox. -/
def ofSandbox (e : SandboxError) : Trouble :=
  ⟨e.message, match e with
    | .refused path => path.message :: refusalCauses path
    | _ => []⟩

/-- The failure to configure. -/
def ofConfig (e : ConfigError) : Trouble := plain e.message

/-- The failure to chat. -/
def ofChat (e : ChatFailure) : Trouble := plain e.message

/-- A number with blanks in front, up to five places. -/
def numbered (n : Nat) : String :=
  let s := toString n
  String.ofList (List.replicate (5 - s.length) ' ') ++ s ++ ": "

/-- A cause, its first line after a lead and the others set in. -/
def setIn (lead indent cause : String) : String :=
  lead ++ Text.join ("\n" ++ indent) (Text.splitOn cause '\n')

/-- The causes with their numbers, from `n` on. -/
def listed : Nat → List String → List String
  | _, [] => []
  | n, cause :: rest => setIn (numbered n) "       " cause :: listed (n + 1) rest

/-- The failure and its causes. -/
def text (t : Trouble) : String :=
  match t.causes with
  | [] => t.message
  | [one] => t.message ++ "\n\nCaused by:\n" ++ setIn "    " "    " one
  | many => t.message ++ "\n\nCaused by:\n" ++ Text.join "\n" (listed 0 many)

end Trouble

end Turnstile
