import Turnstile.Files.Program
import Turnstile.Keyed
import Turnstile.Sandbox.Container
import Turnstile.Sandbox.Kind
/-!
# Building sandboxes

The sandbox of a kind. A container needs a runtime: the one the profile
names, or the first known one that is on the search path.
-/

namespace Turnstile

namespace Container

/-- A program is there, by its path or on the search path. -/
def isPresent (w : World) (program : String) : Bool :=
  (w.files.findProgram w.cwd ((Keyed.find? "PATH" w.env).getD "") program).toBool

/-- The runtime for a profile. -/
def runtime? (w : World) (config : ContainerConfig) : Except SandboxError String :=
  match config.runtime with
  | some explicit => if isPresent w explicit then .ok explicit else .error (.noRuntime explicit)
  | none =>
    match runtimes.find? (isPresent w) with
    | some runtime => .ok runtime
    | none => .error (.noRuntime (Text.join ", " runtimes))

end Container

namespace SandboxKind

/-- The sandbox of a kind, on what the world has. -/
def build (machine : Machine) (w : World) (config : ContainerConfig) :
    SandboxKind → Except SandboxError Sandbox
  | .process => .ok (Sandbox.process machine)
  | .container =>
    (Container.runtime? w config).map fun runtime => Container.sandbox machine runtime config

end SandboxKind

end Turnstile
