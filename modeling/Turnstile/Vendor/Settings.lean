import Turnstile.Text.Blank
import Turnstile.Text.Case
/-!
# Vendors and their settings

The kinds of vendor, what each falls back to, and the settings a
connection is made with.
-/

namespace Turnstile

/-- A kind of vendor. -/
inductive VendorKind where
  | anthropic
  | openAI
  | gemini
  /-- A server that speaks the OpenAI format. -/
  | compat
  deriving DecidableEq, Repr, Inhabited

namespace VendorKind

/-- Every kind. -/
def all : List VendorKind := [.anthropic, .openAI, .gemini, .compat]

/-- The name of a kind. -/
def name : VendorKind → String
  | .anthropic => "anthropic"
  | .openAI => "openai"
  | .gemini => "gemini"
  | .compat => "compat"

/-- Where a kind is reached unless told otherwise. -/
def defaultBaseUrl : VendorKind → String
  | .anthropic => "https://api.anthropic.com"
  | .openAI => "https://api.openai.com/v1"
  | .gemini => "https://generativelanguage.googleapis.com"
  | .compat => "http://localhost:11434/v1"

/-- The model asked unless told otherwise. -/
def defaultModel : VendorKind → String
  | .anthropic => "claude-sonnet-4-5"
  | .openAI => "gpt-4o"
  | .gemini => "gemini-2.5-flash"
  | .compat => ""

/-- The environment variable that holds the key unless told otherwise. -/
def defaultKeyVariable : VendorKind → String
  | .anthropic => "ANTHROPIC_API_KEY"
  | .openAI => "OPENAI_API_KEY"
  | .gemini => "GEMINI_API_KEY"
  | .compat => ""

/-- Read a kind; blanks around it and ASCII letter case do not matter. The
error is the message. -/
def parse (s : String) : Except String VendorKind :=
  match Text.asciiLower (Text.trim s) with
  | "anthropic" | "claude" => .ok .anthropic
  | "openai" => .ok .openAI
  | "gemini" | "google" => .ok .gemini
  | "compat" | "openai-compatible" | "openai_compatible" => .ok .compat
  | other =>
    .error ("unknown provider '" ++ other ++
      "' (expected one of: anthropic, openai, gemini, compat)")

end VendorKind

/-- What a connection to a vendor is made with. -/
structure VendorSettings where
  apiKey : Option String
  baseUrl : String
  model : String
  maxTokens : Nat
  streaming : Bool
  apiVersion : Option String
  /-- In increasing order of name. -/
  headers : List (String × String)
  deriving DecidableEq, Repr, Inhabited

namespace VendorSettings

/-- The key, if there is one that is not blank. -/
def usableKey? (s : VendorSettings) : Option String :=
  s.apiKey.filter fun key => !Text.allBlank key

end VendorSettings

/-- A base address and a path with one slash between them. -/
def endpoint (base path : String) : String :=
  Text.trimEnd (· == '/') base ++ "/" ++ Text.trimStart (· == '/') path

end Turnstile
