import Turnstile.Sandbox.Basic
import Turnstile.Tool.Basic
/-!
# What a tool does

A tool says what it is whenever it is asked, and does what it does. Its
failures fall into those that end the turn and those that are told to the
model.
-/

namespace Turnstile

/-- Why a tool gave no answer. -/
inductive ToolError where
  | invalidInput (text : String)
  | notFound (name : String)
  | policyViolation (text : String)
  | execution (text : String)
  | cancelled
  deriving DecidableEq, Repr, Inhabited

namespace ToolError

/-- The message. -/
def message : ToolError → String
  | .invalidInput text => "Invalid input: " ++ text
  | .notFound name => "Tool not found: " ++ name
  | .policyViolation text => "Policy violation: " ++ text
  | .execution text => "Execution failed: " ++ text
  | .cancelled => "Operation cancelled"

/-- The code shown in results. -/
def code : ToolError → String
  | .invalidInput _ => "INVALID_INPUT"
  | .notFound _ => "NOT_FOUND"
  | .policyViolation _ => "POLICY_VIOLATION"
  | .execution _ => "EXECUTION_FAILED"
  | .cancelled => "CANCELLED"

/-- The turn must end; only a failed execution is told to the model. -/
def abortsTurn : ToolError → Bool
  | .execution _ => false
  | _ => true

/-- A refused path is a violation of the policy. -/
def ofRefusal (r : PathRefusal) : ToolError := .policyViolation r.message

/-- A sandbox that started nothing: a blank command is bad input. -/
def ofSandbox : SandboxError → ToolError
  | .emptyProgram => .invalidInput SandboxError.emptyProgram.message
  | .refused path => ofRefusal path
  | other => .execution other.message

/-- A store that failed. -/
def ofStore (e : StoreError) : ToolError := .execution e.message

end ToolError

/-- On whose behalf a tool runs. -/
structure ToolContext where
  session : Option String
  agent : String
  deriving DecidableEq, Repr, Inhabited

/-- A moment at which a tool may be asked what it is. -/
abbrev Moment := Nat

/-- A definition that stays the same. -/
instance : Coe ToolDefinition (Moment → ToolDefinition) := ⟨fun definition _ => definition⟩

/-- A capability of the model. -/
structure Tool where
  /-- What it says it is, which need not be the same at all moments. -/
  definition : (now : Moment := 0) → ToolDefinition
  execute : ToolContext → Json → Sandbox → Policy → Act ToolError String

namespace Tool

/-- Read the input of a tool. -/
def input {α : Type} (reader : Reader α) (input : Json) : Act ToolError α :=
  match reader Source.value (Doc.ofJson input) with
  | .ok args => pure args
  | .error mismatch => throw (.invalidInput mismatch.message)

/-- A schema of an object with these properties. -/
def schema (properties : List (String × Json)) (required : List String) : Json :=
  .ofFields [("type", .str "object"), ("properties", .ofFields properties),
    ("required", .arr (required.map .str))]

/-- A property of one type, with a description unless that is empty. -/
def property (type description : String) : Json :=
  .ofFields (("type", .str type) ::
    if description.isEmpty then [] else [("description", .str description)])

/-- A property that is one of some words. -/
def choice (words : List String) : Json :=
  .ofFields [("type", .str "string"), ("enum", .arr (words.map .str))]

end Tool

end Turnstile
