import Turnstile.Text.Cap
import Turnstile.Tool.Registry
/-!
# Tools of other servers

A tool that another server lists is registered under the server's name
and its own, and a call of it is a call on that server.
-/

namespace Turnstile

/-- Why another server did not answer. -/
inductive RemoteError where
  | unavailable (text : String)
  | call (text : String)
  deriving DecidableEq, Repr, Inhabited

namespace RemoteError

/-- The message. -/
def message : RemoteError → String
  | .unavailable text => "Remote server unavailable: " ++ text
  | .call text => "Remote call failed: " ++ text

end RemoteError

/-- What a tool of another server answered. -/
structure RemoteOutput where
  content : String
  isError : Bool
  deriving DecidableEq, Repr, Inhabited

/-- A connection to another server. -/
structure RemoteClient where
  server : String
  list : Act RemoteError (List ToolDefinition)
  /-- Call a tool; no output means that cancellation came first. -/
  call : (name : String) → (input : Json) → Act RemoteError (Option RemoteOutput)

namespace Remote

/-- The name a tool of a server is registered under. -/
def qualifiedName (server tool : String) : String := server ++ "__" ++ tool

/-- A call that failed is a failed execution. -/
def failed (e : RemoteError) : ToolError := .execution e.message

/-- Call a tool on its server, unless the invocation is cancelled by
then. -/
def execute (client : RemoteClient) (name : String) (input : Json) (policy : Policy) :
    Act ToolError String := do
  if (← Act.look).isCancelled then throw .cancelled
  match ← Act.orElse (client.call name input) failed with
  | none => throw .cancelled
  | some output =>
    let content := Text.capWithMarker output.content policy.effectiveMaxOutputBytes
    if output.isError then throw (.execution content) else return content

/-- The tool that stands for one on a server. -/
def tool (client : RemoteClient) (remote : ToolDefinition) : Tool :=
  ⟨{ remote with name := qualifiedName client.server remote.name },
    fun _ input _ policy => execute client remote.name input policy⟩

/-- Register every tool of a server, telling how many there are. -/
def registerAll (registry : Registry) (client : RemoteClient) :
    Act RemoteError (Nat × Registry) := do
  let remotes ← client.list
  return (remotes.length, registry.registerAll (remotes.map (tool client)))

end Remote

end Turnstile
