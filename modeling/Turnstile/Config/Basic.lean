import Turnstile.Files.Path
import Turnstile.Keyed
import Turnstile.Policy
import Turnstile.Sandbox.Container
import Turnstile.Sandbox.Kind
import Turnstile.Vendor.Settings
/-!
# Configuration

What can be configured, and what follows from it: a policy, and settings
for each vendor. What is left open falls back to the vendor's own
defaults; a key is given directly or through an environment variable.
-/

namespace Turnstile

/-- What is configured for a vendor. -/
structure VendorConfig where
  /-- The variable that holds the key. -/
  keyVariable : Option String
  apiKey : Option String
  baseUrl : Option String
  model : Option String
  maxTokens : Option Nat
  streaming : Bool
  apiVersion : Option String
  /-- In increasing order of name. -/
  headers : List (String × String)
  deriving DecidableEq, Repr, Inhabited

namespace VendorConfig

/-- Nothing configured. -/
def default : VendorConfig := ⟨none, none, none, none, none, true, none, []⟩

/-- Tokens of a response unless something else is asked for. -/
def defaultMaxTokens : Nat := 8192

/-- The key given directly, unless it is empty. -/
def directKey? (c : VendorConfig) : Option String := c.apiKey.filter fun key => !key.isEmpty

/-- The variable the key is looked for in, if no key is given directly. -/
def keyName? (c : VendorConfig) (kind : VendorKind) : Option String :=
  if c.directKey?.isSome then none
  else
    let name := c.keyVariable.getD kind.defaultKeyVariable
    if name.isEmpty then none else some name

/-- The settings of a connection, given what variables hold. -/
def settings (c : VendorConfig) (kind : VendorKind) (lookUp : String → Option String) :
    VendorSettings where
  apiKey := c.directKey? <|>
    ((c.keyName? kind).bind lookUp).filter fun key => !key.isEmpty
  baseUrl := c.baseUrl.getD kind.defaultBaseUrl
  model := c.model.getD kind.defaultModel
  maxTokens := (c.maxTokens.filter fun n => n != 0).getD defaultMaxTokens
  streaming := c.streaming
  apiVersion := c.apiVersion
  headers := c.headers

/-- The configuration with a key that may be shown. -/
def redacted (c : VendorConfig) : VendorConfig :=
  { c with apiKey := c.apiKey.map fun _ => "********" }

end VendorConfig

/-- What is configured of the policy. -/
structure PolicyConfig where
  timeoutSeconds : Option Nat
  maxOutputBytes : Nat
  network : String
  allowedHosts : List String
  /-- A tilde stands for the home directory. -/
  allowedPaths : List String
  readOnlyPaths : List String
  requireApproval : Bool
  deriving DecidableEq, Repr, Inhabited

/-- Why there is no configuration. -/
inductive ConfigError where
  /-- It could not be read. -/
  | unreadable (text : String)
  /-- It was read and says something impossible. -/
  | invalid (text : String)
  deriving DecidableEq, Repr, Inhabited

namespace ConfigError

/-- The message. -/
def message : ConfigError → String
  | .unreadable text => "Failed to load configuration: " ++ text
  | .invalid text => "Invalid configuration: " ++ text

end ConfigError

namespace PolicyConfig

/-- Nothing configured. -/
def default : PolicyConfig := ⟨none, 0, NetworkAccess.deny.name, [], [], [], false⟩

/-- A path with the home directory for a leading tilde. -/
def expandHome (home path : String) : String :=
  if path == "~" then home
  else
    match Text.strip? "~/" path with
    | some rest => Path.join home rest
    | none => path

/-- The policy. -/
def policy (c : PolicyConfig) (home : String) : Except ConfigError Policy :=
  match NetworkAccess.parse c.network with
  | .error why => .error (.invalid ("policy.network: " ++ why))
  | .ok network => .ok {
      timeout := (c.timeoutSeconds.filter fun n => n != 0).map (· * 1000)
      maxOutputBytes := c.maxOutputBytes
      network
      allowedHosts := c.allowedHosts
      allowedPaths := c.allowedPaths.map (expandHome home)
      readOnlyPaths := c.readOnlyPaths.map (expandHome home)
      requireApproval := c.requireApproval }

end PolicyConfig

/-- The configuration. -/
structure Config where
  /-- The vendor asked unless another one is named. -/
  vendor : VendorKind
  anthropic : VendorConfig
  openAI : VendorConfig
  gemini : VendorConfig
  compat : VendorConfig
  sandbox : SandboxKind
  container : ContainerConfig
  policy : PolicyConfig
  /-- The tools to have; none named means all. -/
  tools : List String
  logFile : Option String
  logLevel : Option String
  deriving DecidableEq, Repr, Inhabited

namespace Config

/-- Nothing configured. -/
def default : Config where
  vendor := .anthropic
  anthropic := .default
  openAI := .default
  gemini := .default
  compat := .default
  sandbox := .process
  container := .default
  policy := .default
  tools := []
  logFile := none
  logLevel := none

/-- What is configured for a vendor. -/
def vendorConfig (c : Config) : VendorKind → VendorConfig
  | .anthropic => c.anthropic
  | .openAI => c.openAI
  | .gemini => c.gemini
  | .compat => c.compat

/-- What can be found wrong before anything is done. -/
def check (c : Config) (home : String) : Except ConfigError Unit := do
  let _ ← c.policy.policy home
  if c.vendor = .compat ∧ (c.compat.model.getD "").isEmpty then
    throw (.invalid "providers.compat.model is required when compat is the default provider")

/-- The configuration with keys that may be shown. -/
def redacted (c : Config) : Config :=
  { c with
    anthropic := c.anthropic.redacted
    openAI := c.openAI.redacted
    gemini := c.gemini.redacted
    compat := c.compat.redacted }

end Config

end Turnstile
