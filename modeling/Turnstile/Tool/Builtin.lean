import Turnstile.Tool.Files
import Turnstile.Tool.Http
import Turnstile.Tool.Notify
import Turnstile.Tool.Registry
import Turnstile.Tool.Shell
import Turnstile.Tool.Stores
/-!
# The built-in tools

A tool that needs a backend is there only if the backend is.
-/

namespace Turnstile

/-- What the built-in tools work with. -/
structure Backends where
  network : Network
  notes : Option NoteStore
  secrets : Option SecretStore
  notifier : Option Notifier

namespace Backends

/-- The tools there are, in the order they are registered. -/
def tools (b : Backends) : List Tool :=
  [shellTool, readFileTool, writeFileTool, httpTool b.network] ++
    (b.notes.map memoryTool).toList ++ (b.secrets.map credentialTool).toList ++
    (b.notifier.map notifyTool).toList

/-- The tools that are enabled; naming none enables all. -/
def enabledTools (b : Backends) (enabled : List String) : List Tool :=
  b.tools.filter fun tool => enabled.isEmpty || enabled.contains tool.definition.name

/-- Register the enabled tools, telling their names. -/
def registerInto (b : Backends) (registry : Registry) (enabled : List String) :
    List String × Registry :=
  let tools := b.enabledTools enabled
  (tools.map (·.definition.name), registry.registerAll tools)

end Backends

end Turnstile
