import Turnstile.Sandbox.Basic
/-!
# The container sandbox

A command runs in a locked-down container: the root is read-only, memory,
processors and processes are limited, all capabilities are dropped. Host
directories are visible only as mounts, each under its own name: the
working directory, writable unless it is protected, and the read-only
roots. An interrupted run leaves its container behind, which is then
removed.
-/

namespace Turnstile

/-- The profile of the containers. -/
structure ContainerConfig where
  image : String
  memory : String
  cpus : String
  pidsLimit : Nat
  tmpfsSize : String
  /-- The runtime to use; otherwise one is looked for. -/
  runtime : Option String
  deriving DecidableEq, Repr, Inhabited

namespace ContainerConfig

/-- The profile used unless told otherwise. -/
def default : ContainerConfig := ⟨"alpine:3", "512m", "1.0", 256, "64m", none⟩

end ContainerConfig

/-- A host directory seen in the container under the same name. -/
structure Mount where
  directory : String
  writable : Bool
  deriving DecidableEq, Repr, Inhabited

namespace Mount

/-- The mount as the runtime reads it. -/
def spec (m : Mount) : String :=
  m.directory ++ ":" ++ m.directory ++ if m.writable then "" else ":ro"

end Mount

namespace Container

/-- The runtimes that are looked for, in order. -/
def runtimes : List String := ["docker", "podman", "nerdctl"]

/-- The options that are the same for every command. -/
def isolation (config : ContainerConfig) : List String :=
  ["--read-only", "--tmpfs", "/tmp:rw,size=" ++ config.tmpfsSize, "--memory", config.memory,
    "--cpus", config.cpus, "--pids-limit", toString config.pidsLimit, "--cap-drop", "ALL",
    "--security-opt", "no-new-privileges"]

/-- The options of a run. -/
def options (config : ContainerConfig) (container : String) (command : Command)
    (policy : Policy) (workDir : Option Mount) (readOnly : List String) : List String :=
  ["--rm", "--name", container] ++ isolation config ++
  (if command.stdin.isSome then ["-i"] else []) ++
  (if policy.network = .deny then ["--network", "none"] else []) ++
  workDir.toList.flatMap (fun m => ["-v", m.spec, "-w", m.directory]) ++
  readOnly.flatMap (fun path => ["-v", Mount.spec ⟨path, false⟩]) ++
  command.env.flatMap (fun v => ["-e", v.1 ++ "=" ++ v.2])

/-- The arguments the runtime is started with. -/
def runArgs (config : ContainerConfig) (container : String) (command : Command)
    (policy : Policy) (workDir : Option Mount) (readOnly : List String) : List String :=
  "run" :: options config container command policy workDir readOnly ++
  config.image :: command.program :: command.args

/-- The name of a sandbox on a runtime. -/
def sandboxName (runtime : String) : String :=
  "container:" ++ (Path.fileName? runtime).getD runtime

/-- The directories a command sees: its own, and the read-only roots. -/
structure Mounts where
  workDir : Option Mount
  readOnly : List AbsPath
  deriving DecidableEq, Repr, Inhabited

/-- The mount of a working directory. It must lie in an allowed root, and
is writable unless it lies in a read-only one. -/
def mountWorkDir (files : FileTree) (cwd : AbsPath) (policy : Policy) (dir : String) :
    Except PathRefusal Mount := do
  let allowed ← Guard.checkAllowed files cwd policy.allowedPaths (.unrestricted dir)
  let path ← Guard.resolve files cwd allowed.text
  let writable := (Guard.checkWritable files cwd policy.readOnlyPaths (.resolved path)).toBool
  return ⟨path.text, writable⟩

/-- The directories a command sees under a policy. -/
def mounts (files : FileTree) (cwd : AbsPath) (policy : Policy) (workDir : Option String) :
    Except PathRefusal Mounts := do
  let workDir ← workDir.mapM (mountWorkDir files cwd policy)
  let readOnly ← policy.readOnlyPaths.mapM (Guard.resolve files cwd)
  return ⟨workDir, readOnly⟩

/-- The name of the next container. -/
def nameIn (w : World) : String :=
  "toolgate-" ++ toString w.processId ++ "-" ++ toString w.containers

/-- The world with the next container named. -/
def afterNaming (w : World) : World := { w with containers := w.containers + 1 }

/-- A container's name, not used before. -/
def nextName {ε : Type} : Act ε String := do
  let w ← Act.look
  Act.change afterNaming
  return nameIn w

/-- Milliseconds given to the removal of a container. -/
def removeLimit : Nat := 10000

/-- Remove the container of an interrupted run. -/
def remove (machine : Machine) (runtime container : String) : StateM World Unit := do
  let _ ← machine {
    program := runtime
    args := ["rm", "-f", container]
    env := []
    workDir := none
    stdin := none
    limit := removeLimit
    heedsCancel := false }

/-- What the runtime is started with for a command. -/
def launch (runtime : String) (config : ContainerConfig) (container : String)
    (command : Command) (policy : Policy) (mounts : Mounts) : Launch where
  program := runtime
  args := runArgs config container command policy mounts.workDir (mounts.readOnly.map (·.text))
  env := []
  workDir := none
  stdin := command.stdin
  limit := policy.effectiveTimeout
  heedsCancel := true

/-- Start the runtime, and remove the container of an interrupted run. -/
def start (machine : Machine) (container : String) (l : Launch) : StateM World Run := do
  let run ← machine l
  if run.ending.isInterrupted then remove machine l.program container
  return run

/-- Run commands in containers of a runtime. -/
def sandbox (machine : Machine) (runtime : String) (config : ContainerConfig) : Sandbox where
  name := sandboxName runtime
  exec command policy := do
    if command.isBlank then throw .emptyProgram
    let mounts ← Sandbox.guarded fun files cwd => mounts files cwd policy command.workDir
    let name ← nextName
    let run ← (start machine name (launch runtime config name command policy mounts) :
      StateM World Run)
    return run.result command.program policy.effectiveTimeout policy.effectiveMaxOutputBytes

end Container

end Turnstile
