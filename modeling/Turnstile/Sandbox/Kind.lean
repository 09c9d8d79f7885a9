import Turnstile.Text.Case
/-!
# Kinds of sandbox

The two ways in which a command can be kept in bounds, and the words that
choose between them.
-/

namespace Turnstile

/-- Where commands run. -/
inductive SandboxKind where
  /-- As children of this program. -/
  | process
  /-- In a locked-down container. -/
  | container
  deriving DecidableEq, Repr, Inhabited

namespace SandboxKind

/-- The name of a kind. -/
def name : SandboxKind → String
  | .process => "process"
  | .container => "container"

/-- Read a kind, letter case aside. The error is the message. -/
def parse (s : String) : Except String SandboxKind :=
  match Text.lower s with
  | "process" => .ok .process
  | "container" | "docker" => .ok .container
  | other => .error ("unknown sandbox kind: " ++ other)

end SandboxKind

end Turnstile
