import Turnstile.Sandbox.Container
import Turnstile.Proofs.Files.Names
/-!
# The words of a run — how a runtime reads its arguments

A runtime reads options from the left: some stand alone, others take the
next word as their value, and the first word that is neither is the image.
The words a run is started with are those of a list of options
(`Container.words_runOptions`), so they are read back as that list
(`Container.readOptions_words`), whatever stands in the values. The value
of a `-v` is a bind mount, its parts between colons.
-/

namespace Turnstile

namespace Container

/-- Options that stand alone. -/
def switches : List String := ["--rm", "--read-only", "-i"]

/-- Options that take a value. -/
def takers : List String :=
  ["--name", "--tmpfs", "--memory", "--cpus", "--pids-limit", "--cap-drop", "--security-opt",
    "--network", "-v", "-w", "-e"]

/-- One option as it was read. -/
inductive RunOption where
  | switch (name : String)
  | taking (name value : String)
  deriving DecidableEq, Repr

namespace RunOption

/-- The words of an option. -/
def words : RunOption → List String
  | switch name => [name]
  | taking name value => [name, value]

/-- The runtime has such an option. -/
def Known : RunOption → Prop
  | switch name => name ∈ switches
  | taking name _ => name ∈ takers

/-- What the option binds, as it is written. -/
def bind? : RunOption → Option String
  | taking "-v" value => some value
  | _ => none

end RunOption

/-- Read options from the left; the words after the last of them are left. -/
def readOptions : List String → List RunOption × List String
  | [] => ([], [])
  | word :: rest =>
    if word ∈ switches then
      let (os, left) := readOptions rest
      (.switch word :: os, left)
    else if word ∈ takers then
      match rest with
      | value :: rest =>
        let (os, left) := readOptions rest
        (.taking word value :: os, left)
      | [] => ([], [word])
    else ([], word :: rest)

/-- No option is read both ways. -/
theorem not_mem_switches_of_mem_takers : ∀ name ∈ takers, name ∉ switches := by decide

/-- A word that is an option of itself. -/
theorem readOptions_switch {word : String} (h : word ∈ switches) (rest : List String) :
    readOptions (word :: rest) = (.switch word :: (readOptions rest).1, (readOptions rest).2) := by
  rw [readOptions.eq_def]
  exact if_pos h

/-- A word that takes the next one as its value. -/
theorem readOptions_taking {word : String} (h : word ∈ takers) (value : String)
    (rest : List String) :
    readOptions (word :: value :: rest) =
      (.taking word value :: (readOptions rest).1, (readOptions rest).2) := by
  rw [readOptions.eq_def]
  exact (if_neg (not_mem_switches_of_mem_takers word h)).trans (if_pos h)

/-- Reading stops at a word that is no option. -/
theorem readOptions_stop {word : String} (h : word ∉ switches ++ takers) (rest : List String) :
    readOptions (word :: rest) = ([], word :: rest) := by
  obtain ⟨hswitch, htaker⟩ := not_or.mp (fun h' => h (List.mem_append.mpr h'))
  rw [readOptions.eq_def]
  exact (if_neg hswitch).trans (if_neg htaker)

/-- **Options are read back from their words**, and reading goes on after
them. -/
theorem readOptions_words {os : List RunOption} (h : ∀ o ∈ os, o.Known) (rest : List String) :
    readOptions (os.flatMap RunOption.words ++ rest) =
      (os ++ (readOptions rest).1, (readOptions rest).2) := by
  induction os with
  | nil => rfl
  | cons o os ih =>
    obtain ⟨ho, hos⟩ := List.forall_mem_cons.mp h
    rw [List.flatMap_cons, List.append_assoc]
    cases o with
    | switch name =>
      rw [RunOption.words, List.singleton_append, readOptions_switch ho, ih hos]
      rfl
    | taking name value =>
      rw [RunOption.words, List.cons_append, List.singleton_append, readOptions_taking ho, ih hos]
      rfl

/-! ## The options of a run -/

open RunOption

variable (config : ContainerConfig) (container : String) (command : Command) (policy : Policy)
variable (workDir : Option Mount) (readOnly : List String)

/-- The options of a run, each with its value. -/
def runOptions : List RunOption :=
  [switch "--rm", taking "--name" container, switch "--read-only",
    taking "--tmpfs" ("/tmp:rw,size=" ++ config.tmpfsSize), taking "--memory" config.memory,
    taking "--cpus" config.cpus, taking "--pids-limit" (toString config.pidsLimit),
    taking "--cap-drop" "ALL", taking "--security-opt" "no-new-privileges"] ++
  (if command.stdin.isSome then [switch "-i"] else []) ++
  (if policy.network = .deny then [taking "--network" "none"] else []) ++
  workDir.toList.flatMap (fun m => [taking "-v" m.spec, taking "-w" m.directory]) ++
  readOnly.map (fun path => taking "-v" (Mount.spec ⟨path, false⟩)) ++
  command.env.map (fun v => taking "-e" (v.1 ++ "=" ++ v.2))

/-- The words a run is started with are those of its options. -/
theorem words_runOptions :
    (runOptions config container command policy workDir readOnly).flatMap words =
      options config container command policy workDir readOnly := by
  have hstdin : (if command.stdin.isSome then [switch "-i"] else []).flatMap words =
      if command.stdin.isSome then ["-i"] else [] := by
    split <;> rfl
  have hnetwork : (if policy.network = .deny then [taking "--network" "none"] else []).flatMap
      words = if policy.network = .deny then ["--network", "none"] else [] := by
    split <;> rfl
  simp only [runOptions, options, List.flatMap_append, hstdin, hnetwork, List.flatMap_assoc,
    List.flatMap_map]
  rfl

/-- The runtime has all of them. -/
theorem known_of_mem_runOptions :
    ∀ o ∈ runOptions config container command policy workDir readOnly, o.Known := by
  have hstdin : ∀ o ∈ if command.stdin.isSome then [switch "-i"] else [], o.Known := by
    split <;> simp [Known, switches]
  have hnetwork : ∀ o ∈ if policy.network = .deny then [taking "--network" "none"] else [],
      o.Known := by
    split <;> simp [Known, takers]
  simp only [runOptions, List.forall_mem_append, List.forall_mem_map, List.forall_mem_flatMap]
  refine ⟨⟨⟨⟨⟨?_, hstdin⟩, hnetwork⟩, ?_⟩, ?_⟩, ?_⟩
  · simp [Known, switches, takers]
  · simp [Known, takers]
  · simp [Known, takers]
  · simp [Known, takers]

/-- **So the options are read back**, whatever stands in them and after
them. -/
theorem readOptions_options (rest : List String) :
    readOptions (options config container command policy workDir readOnly ++ rest) =
      (runOptions config container command policy workDir readOnly ++ (readOptions rest).1,
        (readOptions rest).2) := by
  rw [← words_runOptions]
  exact readOptions_words (known_of_mem_runOptions _ _ _ _ _ _) rest

/-- **What a run binds**: the working directory and the read-only roots. -/
theorem binds_runOptions :
    (runOptions config container command policy workDir readOnly).filterMap bind? =
      (workDir.toList ++ readOnly.map (Mount.mk · false)).map Mount.spec := by
  have hstdin : (if command.stdin.isSome then [switch "-i"] else []).filterMap bind? = [] := by
    split <;> rfl
  have hnetwork : (if policy.network = .deny then [taking "--network" "none"] else []).filterMap
      bind? = [] := by
    split <;> rfl
  have henv : (command.env.map fun v => taking "-e" (v.1 ++ "=" ++ v.2)).filterMap bind? = [] := by
    simp [bind?]
  have hwork : (workDir.toList.flatMap fun m =>
      [taking "-v" m.spec, taking "-w" m.directory]).filterMap bind? =
      workDir.toList.map Mount.spec := by
    cases workDir <;> rfl
  have hroots : (readOnly.map fun path => taking "-v" (Mount.spec ⟨path, false⟩)).filterMap bind? =
      (readOnly.map (Mount.mk · false)).map Mount.spec := by
    rw [List.filterMap_map, List.map_map]
    exact congrFun List.filterMap_eq_map readOnly
  simp only [runOptions, List.filterMap_append, hstdin, hnetwork, hwork, hroots, henv,
    List.map_append, List.append_nil]
  rfl

end Container

/-! ## Bind mounts -/

/-- A bind mount as a runtime reads it. -/
structure Bind where
  source : String
  target : String
  writable : Bool
  deriving DecidableEq, Repr

/-- Read the value of a `-v`: a directory of the host, the directory it is
seen as, and `ro` where it is not to be written. -/
def Bind.read? (value : String) : Option Bind :=
  match Text.splitOn value ':' with
  | [source, target] => some ⟨source, target, true⟩
  | [source, target, "ro"] => some ⟨source, target, false⟩
  | _ => none

/-- **A mount is read back as it was meant**, a directory under its own
name, unless there is a colon in it. -/
theorem Mount.read?_spec (m : Mount) (h : ':' ∉ m.directory.toList) :
    Bind.read? m.spec = some ⟨m.directory, m.directory, m.writable⟩ := by
  obtain ⟨directory, writable⟩ := m
  cases writable with
  | true =>
    have hspec : Mount.spec ⟨directory, true⟩ =
        Text.join (String.singleton ':') [directory, directory] := by
      simp [Mount.spec, Text.join]
    rw [Bind.read?, hspec, Text.splitOn_join (by simp) (by simpa using h)]
  | false =>
    have hspec : Mount.spec ⟨directory, false⟩ =
        Text.join (String.singleton ':') [directory, directory, "ro"] := by
      have hmode : ":ro" = ":" ++ "ro" := by decide
      simp only [Mount.spec, Text.join, hmode, String.append_assoc]
      rfl
    rw [Bind.read?, hspec, Text.splitOn_join (by simp) (by simpa using h)]
    rfl

end Turnstile
