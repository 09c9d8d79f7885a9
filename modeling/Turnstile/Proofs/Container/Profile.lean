import Turnstile.Proofs.Container.Words
/-!
# The profile of a run — what its options say, read back

The words of a run hold texts that come from outside: names and values of
variables, directories, the program and its arguments. Whatever they are,
a runtime that reads from the left takes each of them as the value it was
meant as, stops at the image and hands the rest to the container as it is
(`Container.runArgs_read`). Which options it has read is told by name, each
with the values it was given in order (`valuesOf`); those that shut the
container off are the same for every command.
-/

namespace Turnstile

namespace Container

open RunOption

/-! ## Options by name -/

namespace RunOption

/-- The name of an option. -/
def name : RunOption → String
  | switch name => name
  | taking name _ => name

/-- The value of an option of that name. -/
def valueOf? (key : String) : RunOption → Option String
  | switch _ => none
  | taking name value => if name = key then some value else none

end RunOption

/-- The values of the options of a name, in order. -/
def valuesOf (key : String) (os : List RunOption) : List String := os.filterMap (valueOf? key)

section

variable (key word value : String) (os more : List RunOption)

@[simp] theorem valuesOf_nil : valuesOf key [] = [] := rfl

@[simp] theorem valuesOf_switch_cons : valuesOf key (switch word :: os) = valuesOf key os := rfl

@[simp] theorem valuesOf_taking_cons :
    valuesOf key (taking word value :: os) =
      if word = key then value :: valuesOf key os else valuesOf key os := by
  split <;> rename_i h <;> simp [valuesOf, valueOf?, h]

@[simp] theorem valuesOf_append :
    valuesOf key (os ++ more) = valuesOf key os ++ valuesOf key more :=
  List.filterMap_append

@[simp] theorem valuesOf_ite (c : Prop) [Decidable c] :
    valuesOf key (if c then os else more) = if c then valuesOf key os else valuesOf key more :=
  apply_ite ..

variable {α : Type} (xs : List α)

@[simp] theorem valuesOf_flatMap (f : α → List RunOption) :
    valuesOf key (xs.flatMap f) = xs.flatMap fun x => valuesOf key (f x) :=
  List.filterMap_flatMap ..

@[simp] theorem valuesOf_map_taking (f : α → String) :
    valuesOf key (xs.map fun x => taking word (f x)) = if word = key then xs.map f else [] := by
  induction xs with
  | nil => simp
  | cons x rest ih =>
    rw [List.map_cons, valuesOf_taking_cons, ih]
    split <;> rfl

end

/-! ## What shuts a container off -/

/-- The options that shut a container off. -/
def isolating : List String :=
  ["--read-only", "--tmpfs", "--memory", "--cpus", "--pids-limit", "--cap-drop", "--security-opt"]

/-- Those of some options that do, in order. -/
def isolationOf (os : List RunOption) : List RunOption := os.filter (·.name ∈ isolating)

/-- How the containers of a configuration are shut off: the root is not to
be written, there is a small place for scratch, memory, processors and
processes are limited, all capabilities are dropped and none are gained. -/
def profile (config : ContainerConfig) : List RunOption :=
  [switch "--read-only", taking "--tmpfs" ("/tmp:rw,size=" ++ config.tmpfsSize),
    taking "--memory" config.memory, taking "--cpus" config.cpus,
    taking "--pids-limit" (toString config.pidsLimit), taking "--cap-drop" "ALL",
    taking "--security-opt" "no-new-privileges"]

theorem isolationOf_append (os more : List RunOption) :
    isolationOf (os ++ more) = isolationOf os ++ isolationOf more :=
  List.filter_append ..

/-- Options by other names do not count. -/
theorem isolationOf_eq_nil {os : List RunOption} (h : ∀ o ∈ os, o.name ∉ isolating) :
    isolationOf os = [] :=
  List.filter_eq_nil_iff.mpr fun o ho => by simpa using h o ho

/-! ## The options of a run -/

variable (config : ContainerConfig) (container : String) (command : Command) (policy : Policy)
variable (workDir : Option Mount) (readOnly : List String)

theorem isolationOf_runOptions :
    isolationOf (runOptions config container command policy workDir readOnly) = profile config := by
  have hstdin : isolationOf (if command.stdin.isSome then [switch "-i"] else []) = [] := by
    split <;> rfl
  have hnetwork : isolationOf (if policy.network = .deny then [taking "--network" "none"] else []) =
      [] := by
    split <;> rfl
  have hwork : isolationOf (workDir.toList.flatMap fun m =>
      [taking "-v" m.spec, taking "-w" m.directory]) = [] := by
    cases workDir <;> rfl
  have hroots : isolationOf (readOnly.map fun path => taking "-v" (Mount.spec ⟨path, false⟩)) =
      [] :=
    isolationOf_eq_nil (List.forall_mem_map.mpr fun _ _ => by simp [RunOption.name, isolating])
  have henv : isolationOf (command.env.map fun v => taking "-e" (v.1 ++ "=" ++ v.2)) = [] :=
    isolationOf_eq_nil (List.forall_mem_map.mpr fun _ _ => by simp [RunOption.name, isolating])
  simp only [runOptions, isolationOf_append, hstdin, hnetwork, hwork, hroots, henv,
    List.append_nil]
  rfl

/-- What the options of a run say. -/
structure Says (os : List RunOption) : Prop where
  /-- The container is shut off as every other of the configuration. -/
  isolation : isolationOf os = profile config
  network : valuesOf "--network" os = if policy.network = .deny then ["none"] else []
  env : valuesOf "-e" os = command.env.map fun v => v.1 ++ "=" ++ v.2
  mounts : valuesOf "-v" os =
    (workDir.toList ++ readOnly.map (Mount.mk · false)).map Mount.spec
  directory : valuesOf "-w" os = workDir.toList.map (·.directory)
  name : valuesOf "--name" os = [container]
  input : switch "-i" ∈ os ↔ command.stdin.isSome = true
  removed : switch "--rm" ∈ os

theorem says_runOptions :
    Says config container command policy workDir readOnly
      (runOptions config container command policy workDir readOnly) where
  isolation := isolationOf_runOptions config container command policy workDir readOnly
  network := by simp [runOptions]
  env := by simp [runOptions]
  mounts := by cases workDir <;> simp [runOptions, Function.comp_def]
  directory := by cases workDir <;> simp [runOptions]
  name := by simp [runOptions]
  input := by simp [runOptions]
  removed := by simp [runOptions]

/-! ## Reading a run -/

/-- Every option begins with a hyphen. -/
theorem startsWith_of_mem_options : ∀ word ∈ switches ++ takers, Text.startsWith word "-" = true := by
  decide

/-- **A run is read as it was meant.** If the image is not written as an
option, then whatever texts there are in the command, the mounts and the
container's name, the options end before the image, what comes after it is
the program with its arguments, and the options say what they were made to
say. -/
theorem runArgs_read (himage : Text.startsWith config.image "-" = false) :
    ∃ words os, runArgs config container command policy workDir readOnly = "run" :: words ∧
      readOptions words = (os, config.image :: command.program :: command.args) ∧
      Says config container command policy workDir readOnly os := by
  have hstop : config.image ∉ switches ++ takers := by
    intro hmem
    rw [startsWith_of_mem_options _ hmem] at himage
    cases himage
  refine ⟨options config container command policy workDir readOnly ++
      config.image :: command.program :: command.args,
    runOptions config container command policy workDir readOnly, rfl, ?_,
    says_runOptions config container command policy workDir readOnly⟩
  rw [readOptions_options, readOptions_stop hstop, List.append_nil]

/-- A command whose every text looks like an option. -/
def hostileCommand : Command where
  program := "--privileged"
  args := ["-v", "/:/host"]
  stdin := some "--rm"
  workDir := none
  env := [("-v", "/:/host"), ("--network", "host\n-e")]

/-- None of its texts is read as one. -/
theorem runArgs_read_hostile :
    Text.startsWith ContainerConfig.default.image "-" = false ∧
    ∃ words os,
      runArgs .default "-i" hostileCommand .default (some ⟨"--rm", true⟩) ["-w"] =
        "run" :: words ∧
      readOptions words = (os, ["alpine:3", "--privileged", "-v", "/:/host"]) ∧
      valuesOf "--network" os = ["none"] ∧ valuesOf "-v" os = ["--rm:--rm", "-w:-w:ro"] ∧
      valuesOf "-e" os = ["-v=/:/host", "--network=host\n-e"] := by
  have himage : Text.startsWith ContainerConfig.default.image "-" = false := by decide
  obtain ⟨words, os, hargs, hread, hsays⟩ :=
    runArgs_read .default "-i" hostileCommand .default (some ⟨"--rm", true⟩) ["-w"] himage
  exact ⟨himage, words, os, hargs, hread, hsays.network, hsays.mounts.trans (by decide),
    hsays.env.trans (by decide)⟩

end Container

end Turnstile
