import Turnstile.Config.Basic
import Turnstile.Json.Value
import Turnstile.Toml.Printer
/-!
# Showing the configuration

Every table of the configuration with its entries in order, from which
both the JSON and the TOML text are made.
-/

namespace Turnstile

namespace Toml.Shown

/-- A value that may be missing. -/
def option {α : Type} (f : α → Shown) : Option α → Shown
  | some x => f x
  | none => .absent

mutual

/-- The value as JSON; what is absent is `null`. -/
def toJson : Shown → Json
  | .text s => .str s
  | .flag b => .bool b
  | .whole n => .int n
  | .texts items => .arr (items.map .str)
  | .absent => .null
  | .table entries => .ofFields (entriesToJson entries)

/-- Entries as fields. -/
def entriesToJson : List (String × Shown) → List (String × Json)
  | [] => []
  | (key, value) :: rest => (key, value.toJson) :: entriesToJson rest

end

end Toml.Shown

open Toml (Shown)

namespace VendorConfig

/-- The table of a vendor. -/
def shown (c : VendorConfig) : Shown :=
  .table [("api_key_env", Shown.option .text c.keyVariable), ("api_key", Shown.option .text c.apiKey),
    ("base_url", Shown.option .text c.baseUrl), ("model", Shown.option .text c.model),
    ("max_tokens", Shown.option .whole c.maxTokens), ("streaming", .flag c.streaming),
    ("api_version", Shown.option .text c.apiVersion),
    ("headers", .table (c.headers.map fun h => (h.1, .text h.2)))]

end VendorConfig

namespace PolicyConfig

/-- The table of the policy. -/
def shown (c : PolicyConfig) : Shown :=
  .table [("timeout_secs", Shown.option .whole c.timeoutSeconds),
    ("max_output_bytes", .whole c.maxOutputBytes), ("network", .text c.network),
    ("allowed_hosts", .texts c.allowedHosts), ("allowed_paths", .texts c.allowedPaths),
    ("read_only_paths", .texts c.readOnlyPaths), ("require_approval", .flag c.requireApproval)]

end PolicyConfig

namespace Config

/-- The tables of a configuration. -/
def shown (c : Config) : List (String × Shown) :=
  [("providers", .table [("default", .text c.vendor.name), ("anthropic", c.anthropic.shown),
      ("openai", c.openAI.shown), ("gemini", c.gemini.shown), ("compat", c.compat.shown)]),
    ("sandbox", .table [("kind", .text c.sandbox.name), ("image", .text c.container.image),
      ("memory", .text c.container.memory), ("cpus", .text c.container.cpus),
      ("pids_limit", .whole c.container.pidsLimit), ("tmpfs_size", .text c.container.tmpfsSize),
      ("runtime", Shown.option .text c.container.runtime)]),
    ("policy", c.policy.shown),
    ("tools", .table [("enabled", .texts c.tools)]),
    ("logging", .table [("file", Shown.option .text c.logFile),
      ("level", Shown.option .text c.logLevel)])]

/-- The configuration as JSON. -/
def toJson (c : Config) : Json := (Shown.table c.shown).toJson

/-- The configuration as TOML. -/
def toToml (c : Config) : Except String String := Toml.document c.shown

end Config

end Turnstile
