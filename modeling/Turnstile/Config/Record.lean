import Turnstile.Config.Basic
import Turnstile.Config.Setting
import Turnstile.Json.Reader
/-!
# Reading the configuration

The typed configuration out of settings. Settings are read as documents:
what is not there keeps its default, and what is not known is skipped.
-/

namespace Turnstile

namespace Setting

mutual

/-- A setting as a document. -/
def toDoc : Setting → Doc
  | .text s => .str (some s)
  | .letter c => .str (some (String.singleton c))
  | .flag b => .bool b
  | .whole n => .num (some (.int n))
  | .real _ => .num none
  | .list items => .arr (toDocs items)
  | .table entries => .obj (toFields entries)

/-- Settings as documents. -/
def toDocs : List Setting → List Doc
  | [] => []
  | s :: rest => s.toDoc :: toDocs rest

/-- Entries as the fields of a document. -/
def toFields : List (String × Setting) → List (Option String × Doc)
  | [] => []
  | (key, s) :: rest => (some key, s.toDoc) :: toFields rest

end

end Setting

namespace VendorKind

/-- The names a kind goes by in a configuration. -/
def words : List (String × VendorKind) :=
  [("anthropic", .anthropic), ("claude", .anthropic), ("openai", .openAI), ("gemini", .gemini),
    ("google", .gemini), ("compat", .compat), ("openai-compatible", .compat)]

end VendorKind

namespace SandboxKind

/-- The names of the kinds in a configuration. -/
def words : List (String × SandboxKind) := [("process", .process), ("container", .container)]

end SandboxKind

namespace VendorConfig

/-- Read what is configured for a vendor. -/
def reader : Reader VendorConfig := fun source doc => do
  let text := Reader.option Reader.string
  let number := Reader.option Reader.nat32
  let headers := Reader.keyed Reader.string
  let fs ← Reader.eagerRecord "struct FileVendorConfig"
    [("api_key_env", Reader.judged text), ("api_key", Reader.judged text),
      ("base_url", Reader.judged text), ("model", Reader.judged text),
      ("max_tokens", Reader.judged number), ("streaming", Reader.judged Reader.bool),
      ("api_version", Reader.judged text), ("headers", Reader.judged headers)] source doc
  return {
    keyVariable := ← fs.getD "api_key_env" text none
    apiKey := ← fs.getD "api_key" text none
    baseUrl := ← fs.getD "base_url" text none
    model := ← fs.getD "model" text none
    maxTokens := ← fs.getD "max_tokens" number none
    streaming := ← fs.getD "streaming" Reader.bool true
    apiVersion := ← fs.getD "api_version" text none
    headers := ← fs.getD "headers" headers [] }

end VendorConfig

namespace PolicyConfig

/-- Read what is configured of the policy. -/
def reader : Reader PolicyConfig := fun source doc => do
  let d := PolicyConfig.default
  let texts := Reader.list Reader.string
  let fs ← Reader.record "a policy"
    ["timeout_secs", "max_output_bytes", "network", "allowed_hosts", "allowed_paths",
      "read_only_paths", "require_approval"] source doc
  return {
    timeoutSeconds := ← fs.get? "timeout_secs" Reader.nat64
    maxOutputBytes := ← fs.getD "max_output_bytes" Reader.index d.maxOutputBytes
    network := ← fs.getD "network" Reader.string d.network
    allowedHosts := ← fs.getD "allowed_hosts" texts []
    allowedPaths := ← fs.getD "allowed_paths" texts []
    readOnlyPaths := ← fs.getD "read_only_paths" texts []
    requireApproval := ← fs.getD "require_approval" Reader.bool false }

end PolicyConfig

namespace Config

/-- Read the kind of sandbox and the profile of containers, which are one
table; a list will not do. -/
def sandboxReader : Reader (SandboxKind × ContainerConfig) := fun source doc => do
  if let .arr _ := doc then throw (.kind (Reader.describe doc) "a sandbox")
  let d := ContainerConfig.default
  let fs ← Reader.record "a sandbox"
    ["kind", "image", "memory", "cpus", "pids_limit", "tmpfs_size", "runtime"] source doc
  let kind ← fs.getD "kind" (Reader.word SandboxKind.words) .process
  return (kind, {
    image := ← fs.getD "image" Reader.string d.image
    memory := ← fs.getD "memory" Reader.string d.memory
    cpus := ← fs.getD "cpus" Reader.string d.cpus
    pidsLimit := ← fs.getD "pids_limit" Reader.nat32 d.pidsLimit
    tmpfsSize := ← fs.getD "tmpfs_size" Reader.string d.tmpfsSize
    runtime := ← fs.get? "runtime" Reader.string })

/-- Read the vendors into a configuration. -/
def vendorsReader (c : Config) : Reader Config := fun source doc => do
  let fs ← Reader.record "the providers" ["default", "anthropic", "openai", "gemini", "compat"]
    source doc
  return { c with
    vendor := ← fs.getD "default" (Reader.word VendorKind.words) c.vendor
    anthropic := ← fs.getD "anthropic" VendorConfig.reader c.anthropic
    openAI := ← fs.getD "openai" VendorConfig.reader c.openAI
    gemini := ← fs.getD "gemini" VendorConfig.reader c.gemini
    compat := ← fs.getD "compat" VendorConfig.reader c.compat }

/-- Read which tools to have. -/
def toolsReader : Reader (List String) := fun source doc => do
  let fs ← Reader.record "the tools" ["enabled"] source doc
  fs.getD "enabled" (Reader.list Reader.string) []

/-- Read where and how much to log. -/
def loggingReader : Reader (Option String × Option String) := fun source doc => do
  let fs ← Reader.record "the logging" ["file", "level"] source doc
  return (← fs.get? "file" Reader.path, ← fs.get? "level" Reader.string)

/-- Read a configuration. -/
def reader : Reader Config := fun source doc => do
  let d := Config.default
  let fs ← Reader.record "a configuration" ["providers", "sandbox", "policy", "tools", "logging"]
    source doc
  let c ← fs.getD "providers" (vendorsReader d) d
  let (sandbox, container) ← fs.getD "sandbox" sandboxReader (d.sandbox, d.container)
  let (logFile, logLevel) ← fs.getD "logging" loggingReader (none, none)
  return { c with
    sandbox, container, logFile, logLevel
    policy := ← fs.getD "policy" PolicyConfig.reader d.policy
    tools := ← fs.getD "tools" toolsReader [] }

/-- The configuration that settings stand for. -/
def ofSetting (s : Setting) : Except Mismatch Config := reader Source.settings s.toDoc

end Config

end Turnstile
