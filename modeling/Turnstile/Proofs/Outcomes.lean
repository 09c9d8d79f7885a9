import Turnstile.Proofs.Container.Confinement
import Turnstile.Proofs.Draining
import Turnstile.Tool.Dispatch
import Turnstile.Tool.Shell
/-!
# Outcomes — what becomes of a command

A command is refused before anything is started, or its process runs and
has a result, however it ends. The result is told by the ending and by
whether both pipes could be read (`Classified`): endings without a code of
their own have code `-1` and a note, a death by a signal has a code past
128 and a note, and an exit has its code, with a note only on a pipe that
broke. Success is an exit with code nought and nothing to note, and that
alone is no error once the result is fed back (`commands_settle`).
-/

namespace Turnstile

/-! ## Endings -/

namespace Ending

/-- The process gave no code: it was not started, it did not end by itself
or its end was not seen. -/
def hasNoCode : Ending → Bool
  | .notStarted _ | .waitFailed _ | .deadline | .cancelled => true
  | .exited _ | .signalled _ => false

/-- The deadline passed, or the invocation was cancelled. -/
def Killed (ending : Ending) : Prop := ending = .deadline ∨ ending = .cancelled

instance (ending : Ending) : Decidable ending.Killed := inferInstanceAs (Decidable (_ ∨ _))

/-- These are the endings that a run is interrupted by. -/
theorem isInterrupted_iff {ending : Ending} : ending.isInterrupted = true ↔ ending.Killed := by
  cases ending <;> simp [isInterrupted, Killed]

end Ending

namespace Run

/-- No failure ended the reading of either pipe. -/
def Readable (r : Run) : Prop :=
  ∀ cause, Captured.ending? none r.stdout ≠ some (.failure cause) ∧
    Captured.ending? none r.stderr ≠ some (.failure cause)

/-- A result tells how a run ended and whether its pipes could be read. -/
structure Classified (r : Run) (result : ExecResult) : Prop where
  /-- The code is `-1`, and there is a note, exactly where the process gave
  no code, as no process exits with a code below nought. -/
  codeless_iff : (∀ code, r.ending = .exited code → 0 ≤ code) →
    ((result.exitCode = -1 ∧ result.note.isSome = true) ↔ r.ending.hasNoCode = true)
  exited : ∀ code, r.ending = .exited code →
    result.exitCode = code ∧ (result.note = none ↔ r.Readable)
  signalled : ∀ signal, r.ending = .signalled signal →
    result.exitCode = 128 + signal ∧ result.note.isSome = true
  isSuccess_iff : result.isSuccess = true ↔ r.ending = .exited 0 ∧ r.Readable

variable {label : String} {limit max : Nat} {r : Run}

theorem outcome_note_eq_none_iff (label : String) (limit : Nat) {ending : Ending} :
    (outcome label limit ending).2 = none ↔ ∃ code, ending = .exited code := by
  cases ending <;> simp [outcome]

theorem capture_error_eq_none_iff {reads : List PipeRead} :
    (capture max none reads).error = none ↔
      ∀ cause, Captured.ending? none reads ≠ some (.failure cause) := by
  rw [Option.eq_none_iff_forall_ne_some]
  exact forall_congr' fun cause =>
    not_congr ((Captured.accounted_capture max none reads).error_iff cause)

theorem exitCode_result :
    (r.result label limit max).exitCode = (outcome label limit r.ending).1 := by
  obtain ⟨ending, stdout, stderr⟩ := r
  cases ending <;> rfl

/-- The note is on the ending, and only without one on a pipe. -/
theorem note_result : (r.result label limit max).note =
    ((outcome label limit r.ending).2 <|>
      ((capture max none r.stdout).error <|> (capture max none r.stderr).error).map
        ("failed to read output: " ++ ·)) := by
  obtain ⟨ending, stdout, stderr⟩ := r
  cases ending <;> rfl

/-- **There is nothing to note** exactly of an exit with both pipes
read. -/
theorem note_result_eq_none_iff :
    (r.result label limit max).note = none ↔ (∃ code, r.ending = .exited code) ∧ r.Readable := by
  have hreadable : r.Readable ↔
      (capture max none r.stdout).error = none ∧ (capture max none r.stderr).error = none := by
    rw [capture_error_eq_none_iff, capture_error_eq_none_iff]
    exact forall_and
  rw [note_result, hreadable, ← outcome_note_eq_none_iff label limit]
  simp

theorem note_result_isSome (h : ∀ code, r.ending ≠ .exited code) :
    (r.result label limit max).note.isSome = true := by
  rw [Option.isSome_iff_ne_none, Ne, note_result_eq_none_iff]
  rintro ⟨⟨code, hcode⟩, -⟩
  exact h code hcode

/-- **A result is classified** by the run it is of. -/
theorem classified_result (label : String) (limit max : Nat) (r : Run) :
    Classified r (r.result label limit max) where
  codeless_iff hcodes := by
    rw [exitCode_result]
    cases hending : r.ending with
    | exited code =>
      have hcode := hcodes code hending
      constructor
      · rintro ⟨hexit, -⟩
        change code = -1 at hexit
        omega
      · intro h
        cases h
    | signalled signal =>
      constructor
      · rintro ⟨hexit, -⟩
        change (128 + signal : Int) = -1 at hexit
        omega
      · intro h
        cases h
    | _ => exact ⟨fun _ => rfl, fun _ => ⟨rfl, note_result_isSome fun code h => by simp_all⟩⟩
  exited code h := by
    rw [exitCode_result, note_result_eq_none_iff, h]
    exact ⟨rfl, fun hnone => hnone.2, fun hreadable => ⟨⟨code, rfl⟩, hreadable⟩⟩
  signalled signal h := by
    refine ⟨?_, note_result_isSome fun code hexit => ?_⟩
    · rw [exitCode_result, h]
      rfl
    · rw [h] at hexit
      cases hexit
  isSuccess_iff := by
    rw [ExecResult.isSuccess, Bool.and_eq_true, beq_iff_eq, Option.isNone_iff_eq_none,
      exitCode_result, note_result_eq_none_iff]
    constructor
    · rintro ⟨hcode, ⟨code, hexit⟩, hreadable⟩
      rw [hexit] at hcode
      obtain rfl : code = 0 := hcode
      exact ⟨hexit, hreadable⟩
    · rintro ⟨hexit, hreadable⟩
      rw [hexit]
      exact ⟨rfl, ⟨0, rfl⟩, hreadable⟩

end Run

/-! ## A child of this program -/

namespace Sandbox

open Guard

/-- The child that a command is started as. -/
def child (command : Command) (policy : Policy) (workDir : Option String) : Launch where
  program := command.program
  args := command.args
  env := command.env
  workDir := workDir
  stdin := command.stdin
  limit := policy.effectiveTimeout
  heedsCancel := true

/-- The working directory of a child, if it is let through. -/
def childDir (files : FileTree) (cwd : AbsPath) (policy : Policy) :
    Option String → Except PathRefusal (Option String)
  | none => .ok none
  | some dir =>
    (checkAllowed files cwd policy.allowedPaths (.unrestricted dir)).map fun allowed =>
      some allowed.text

/-- **A command as a child**: refused with the world as it was, or
started once. -/
theorem process_on (machine : Machine) (command : Command) (policy : Policy) (w : World) :
    ((process machine).exec command policy).on w =
      if command.isBlank then (.error .emptyProgram, w)
      else
        match childDir w.files w.cwd policy command.workDir with
        | .error e => (.error (.refused e), w)
        | .ok workDir =>
          (.ok ((machine (child command policy workDir) w).1.result command.program
            policy.effectiveTimeout policy.effectiveMaxOutputBytes),
            (machine (child command policy workDir) w).2) := by
  by_cases hblank : command.isBlank = true
  · simp [process, hblank]
  · rw [if_neg hblank]
    cases hdir : command.workDir with
    | none => simp [process, hblank, hdir, childDir, child, Except.map]
    | some dir =>
      cases hallowed : checkAllowed w.files w.cwd policy.allowedPaths (.unrestricted dir) with
      | error e =>
        simp [process, guarded, hblank, hdir, childDir, hallowed, Except.mapError, Except.map]
      | ok allowed =>
        simp [process, guarded, hblank, hdir, childDir, hallowed, child, Except.mapError, Except.map]

/-- Nothing is started: there is no program, or the working directory is
not let through. -/
def Refused (t : FileTree) (cwd : AbsPath) (policy : Policy) (command : Command) : Prop :=
  command.isBlank = true ∨ ∃ dir, command.workDir = some dir ∧
    ∃ e, checkAllowed t cwd policy.allowedPaths (.unrestricted dir) = .error e

theorem childDir_eq_error_iff {t : FileTree} {cwd : AbsPath} {policy : Policy}
    (workDir : Option String) : (∃ e, childDir t cwd policy workDir = .error e) ↔
      ∃ dir, workDir = some dir ∧
        ∃ e, checkAllowed t cwd policy.allowedPaths (.unrestricted dir) = .error e := by
  rcases workDir with _ | dir
  · simp [childDir]
  · cases hallowed : checkAllowed t cwd policy.allowedPaths (.unrestricted dir) <;>
      simp [childDir, hallowed, Except.map]

end Sandbox

/-! ## What is started -/

namespace Sandbox

/-- The world after a run, and after the removal, if the deadline passed or
the invocation was cancelled. -/
def swept (machine : Machine) (removal? : Option Launch) (run : Run × World) : World :=
  if run.1.ending.Killed then
    removal?.elim run.2 fun removal => (machine removal run.2).2
  else run.2

theorem swept_none (machine : Machine) (run : Run × World) : swept machine none run = run.2 :=
  ite_self run.2

/-- The machine notes what it starts. -/
def NotesStarts (machine : Machine) : Prop :=
  ∀ l w, (machine l w).2.started = w.started ++ [l]

theorem started_swept {machine : Machine} (h : NotesStarts machine) (removal? : Option Launch)
    (l : Launch) (w : World) :
    (swept machine removal? (machine l w)).started =
      w.started ++ l :: if (machine l w).1.ending.Killed then removal?.toList else [] := by
  rw [swept]
  split
  · rcases removal? with _ | removal
    · exact h l w
    · rw [Option.elim_some, h removal, h l, List.append_assoc]
      rfl
  · exact h l w

end Sandbox

/-! ## A container -/

namespace Container

open Guard

/-- What removes a container. -/
def removal (runtime container : String) : Launch where
  program := runtime
  args := ["rm", "-f", container]
  env := []
  workDir := none
  stdin := none
  limit := removeLimit
  heedsCancel := false

/-- A path check fails: the working directory is not let through, what is
let through leads nowhere, or a read-only root leads nowhere. -/
def PathFails (t : FileTree) (cwd : AbsPath) (policy : Policy) (command : Command) : Prop :=
  (∃ dir, command.workDir = some dir ∧
    ((∃ e, checkAllowed t cwd policy.allowedPaths (.unrestricted dir) = .error e) ∨
      ∃ allowed e, checkAllowed t cwd policy.allowedPaths (.unrestricted dir) = .ok allowed ∧
        resolve t cwd allowed.text = .error e)) ∨
  ∃ root ∈ policy.readOnlyPaths, ∃ e, resolve t cwd root = .error e

theorem pathFails_iff {t : FileTree} {cwd : AbsPath} {policy : Policy} (command : Command) :
    PathFails t cwd policy command ↔ ∃ e, mounts t cwd policy command.workDir = .error e := by
  have hwork : ∀ dir, (∃ e, mountWorkDir t cwd policy dir = .error e) ↔
      ((∃ e, checkAllowed t cwd policy.allowedPaths (.unrestricted dir) = .error e) ∨
        ∃ allowed e, checkAllowed t cwd policy.allowedPaths (.unrestricted dir) = .ok allowed ∧
          resolve t cwd allowed.text = .error e) := by
    intro dir
    rw [mountWorkDir]
    rcases checkAllowed t cwd policy.allowedPaths (.unrestricted dir) with e | allowed
    · simp [bind, Except.bind]
    · cases hresolve : resolve t cwd allowed.text <;>
        simp [bind, Except.bind, pure, Except.pure, hresolve]
  simp only [PathFails, mounts_eq_error_iff, hwork]

/-- A run of the runtime leaves what it left, and the removal of its
container what it leaves, if the deadline passed or the invocation was
cancelled. -/
theorem start_eq_swept (machine : Machine) (container : String) (l : Launch) (w : World) :
    start machine container l w =
      ((machine l w).1, Sandbox.swept machine (some (removal l.program container))
        (machine l w)) := by
  rcases hrun : machine l w with ⟨run, after⟩
  by_cases h : run.ending.Killed
  · have hinterrupted : run.ending.isInterrupted = true := Ending.isInterrupted_iff.mpr h
    simp only [start, bind, StateT.bind, Sandbox.swept, hrun, hinterrupted, if_pos h]
    rfl
  · have hinterrupted : run.ending.isInterrupted = false := by
      rw [← Bool.not_eq_true, Ending.isInterrupted_iff]
      exact h
    simp only [start, bind, StateT.bind, Sandbox.swept, hrun, hinterrupted, if_neg h]
    rfl

/-- **A command in a container has the container named** for its removal. -/
theorem launch_args (runtime : String) (config : ContainerConfig) (container : String)
    (command : Command) (policy : Policy) (ms : Mounts) :
    ["run", "--rm", "--name", container] <+:
      (launch runtime config container command policy ms).args := by
  simp [launch, runArgs, options]

end Container

/-! ## Refused or run -/

namespace Sandbox

/-- A command comes to a result unless it is refused. `exec` has it run on
a machine, `launches` says what it is started as, and `removal?` is what
is started once the deadline has passed or the invocation is cancelled. -/
structure Settles (exec : Machine → Act SandboxError ExecResult) (w : World) (refused : Prop)
    (launches : Launch → Prop) (removal? : Option Launch) : Prop where
  /-- If it is refused, no machine is asked to start anything: there is no
  program or a path is refused. -/
  refuses : refused → ∃ e, (e = .emptyProgram ∨ ∃ path, e = .refused path) ∧
    ∀ machine, (exec machine).on w = (.error e, w)
  /-- Otherwise it is started once, its result is classified by its run, and
  what is started after it is the removal, exactly if the deadline passed or
  the invocation was cancelled. -/
  runs : ¬ refused → ∃ l start, launches l ∧ start.started = w.started ∧
    ∀ machine, ∃ result,
      (exec machine).on w = (.ok result, swept machine removal? (machine l start)) ∧
      (machine l start).1.Classified result ∧
      (NotesStarts machine → ((exec machine).on w).2.started = w.started ++
        l :: if (machine l start).1.ending.Killed then removal?.toList else [])

/-- **A command settles** if it is refused where it is blank or its paths
are not had, and otherwise is run as what its paths make of it. -/
theorem settles_of_on {π : Type} {exec : Machine → Act SandboxError ExecResult}
    {w : World} {refused : Prop} {launches : Launch → Prop} {removal? : Option Launch}
    {blank : Bool} {paths : Except PathRefusal π} (start : World) (launchOf : π → Launch)
    (label : String) (limit max : Nat) (hrefused : refused ↔ blank = true ∨ ∃ e, paths = .error e)
    (hlaunches : ∀ found, launches (launchOf found)) (hstart : start.started = w.started)
    (hon : ∀ machine, (exec machine).on w =
      if blank then (.error .emptyProgram, w)
      else
        match paths with
        | .error e => (.error (.refused e), w)
        | .ok found =>
          (.ok ((machine (launchOf found) start).1.result label limit max),
            swept machine removal? (machine (launchOf found) start))) :
    Settles exec w refused launches removal? where
  refuses h := by
    by_cases hblank : blank = true
    · exact ⟨.emptyProgram, Or.inl rfl, fun machine => by rw [hon, if_pos hblank]⟩
    · obtain ⟨e, he⟩ := (hrefused.mp h).resolve_left hblank
      exact ⟨.refused e, Or.inr ⟨e, rfl⟩, fun machine => by rw [hon, if_neg hblank, he]⟩
  runs h := by
    obtain ⟨hblank, hpaths⟩ := not_or.mp (hrefused.not.mp h)
    cases hfound : paths with
    | error e => exact absurd ⟨e, hfound⟩ hpaths
    | ok found =>
      refine ⟨launchOf found, start, hlaunches found, hstart, fun machine => ?_⟩
      have hrun := hon machine
      rw [if_neg hblank, hfound] at hrun
      refine ⟨_, hrun, Run.classified_result .., fun hnotes => ?_⟩
      rw [hrun, ← hstart]
      exact started_swept hnotes removal? (launchOf found) start

theorem process_settles (command : Command) (policy : Policy) (w : World) :
    Settles (fun machine => (process machine).exec command policy) w
      (Refused w.files w.cwd policy command)
      (fun l => l.program = command.program ∧ l.args = command.args) none := by
  have hrefused : Refused w.files w.cwd policy command ↔ command.isBlank = true ∨
      ∃ e, childDir w.files w.cwd policy command.workDir = .error e := by
    rw [Refused, childDir_eq_error_iff]
  refine settles_of_on w (child command policy) command.program policy.effectiveTimeout
    policy.effectiveMaxOutputBytes hrefused (fun workDir => ⟨rfl, rfl⟩) rfl fun machine => ?_
  rw [process_on]
  cases childDir w.files w.cwd policy command.workDir with
  | error e => rfl
  | ok workDir =>
    dsimp only
    rw [swept_none]

end Sandbox

namespace Container

theorem sandbox_settles (runtime : String) (config : ContainerConfig)
    (command : Command) (policy : Policy) (w : World) :
    Sandbox.Settles (fun machine => (sandbox machine runtime config).exec command policy) w
      (command.isBlank = true ∨ PathFails w.files w.cwd policy command)
      (fun l => l.program = runtime ∧ ["run", "--rm", "--name", nameIn w] <+: l.args)
      (some (removal runtime (nameIn w))) := by
  refine Sandbox.settles_of_on (afterNaming w) (launch runtime config (nameIn w) command policy)
    command.program policy.effectiveTimeout policy.effectiveMaxOutputBytes
    (or_congr_right (pathFails_iff command)) (fun ms => ⟨rfl, launch_args ..⟩) rfl
    fun machine => ?_
  rw [exec_on]
  cases mounts w.files w.cwd policy command.workDir with
  | error e => rfl
  | ok ms =>
    dsimp only
    rw [start_eq_swept]
    rfl

end Container

/-! ## Fed back -/

namespace ShellTool

/-- **A command line that is run is answered**, unless the invocation is
cancelled meanwhile. -/
theorem execute_on {input : Json} {sandbox : Sandbox} {policy : Policy} {w : World} {args : Args}
    (hargs : Args.reader Source.value (Doc.ofJson input) = .ok args)
    (hline : Text.allBlank args.command = false) {result : ExecResult} {after : World}
    (hexec : (sandbox.exec (command args) (narrowed policy args.timeout)).on w =
      (.ok result, after)) :
    (execute input sandbox policy).on w =
      (if after.isCancelled then .error .cancelled else answer result, after) := by
  rw [execute, Act.on_bind, Tool.input, hargs, Act.on_pure]
  dsimp only
  rw [hline]
  cases hcancelled : after.isCancelled <;> simp [hexec, Except.mapError, hcancelled]

end ShellTool

namespace Dispatcher

/-- **What a command line came to is fed back** as an error exactly if it
was no success, unless the invocation is cancelled. -/
theorem dispatch_of_exec {d : Dispatcher} {call : ToolCall} {policy : Policy} {w mid : World}
    (hvet : (d.vet call policy).on w = (.ok shellTool, mid)) {args : ShellTool.Args}
    (hargs : ShellTool.Args.reader Source.value (Doc.ofJson call.input) = .ok args)
    (hline : Text.allBlank args.command = false) {result : ExecResult} {after : World}
    (hexec : (d.sandbox.exec (ShellTool.command args)
      (ShellTool.narrowed policy args.timeout)).on mid = (.ok result, after))
    (context : ToolContext) :
    (d.dispatch context call policy).on w =
      (if after.isCancelled then .error .cancelled
        else .ok ⟨call.id, result.render, !result.isSuccess⟩, after) := by
  have htool : (ShellTool.execute call.input d.sandbox policy).on mid =
      (if after.isCancelled then .error .cancelled else ShellTool.answer result, after) :=
    ShellTool.execute_on hargs hline hexec
  rw [dispatch, Act.on_bind, hvet]
  change (ToolResult.ofAnswer call.id ((ShellTool.execute call.input d.sandbox policy).on mid).1,
    ((ShellTool.execute call.input d.sandbox policy).on mid).2) = _
  rw [htool]
  cases hcancelled : after.isCancelled <;> cases hsuccess : result.isSuccess <;>
    simp [ShellTool.answer, ToolResult.ofAnswer, hsuccess]

end Dispatcher

/-- **Whatever becomes of a command is a result.** As a child and in a
container alike it is refused, for want of a program or at a path check,
with nothing started, or it runs and its result is classified; a container
is removed exactly if the deadline passed or the invocation was cancelled. A
command line of a call, once run, is fed back as an error exactly if it was
no success, unless the invocation is cancelled. -/
theorem commands_settle (runtime : String) (config : ContainerConfig) :
    (∀ command policy w,
      Sandbox.Settles (fun machine => (Sandbox.process machine).exec command policy) w
        (Sandbox.Refused w.files w.cwd policy command)
        (fun l => l.program = command.program ∧ l.args = command.args) none) ∧
    (∀ command policy w,
      Sandbox.Settles
        (fun machine => (Container.sandbox machine runtime config).exec command policy) w
        (command.isBlank = true ∨ Container.PathFails w.files w.cwd policy command)
        (fun l => l.program = runtime ∧ ["run", "--rm", "--name", Container.nameIn w] <+: l.args)
        (some (Container.removal runtime (Container.nameIn w)))) ∧
    ∀ (d : Dispatcher) context call policy w mid args,
      (d.vet call policy).on w = (.ok shellTool, mid) →
      ShellTool.Args.reader Source.value (Doc.ofJson call.input) = .ok args →
      Text.allBlank args.command = false →
      ∀ result after, (d.sandbox.exec (ShellTool.command args)
          (ShellTool.narrowed policy args.timeout)).on mid = (.ok result, after) →
        (d.dispatch context call policy).on w =
          (if after.isCancelled then .error .cancelled
            else .ok ⟨call.id, result.render, !result.isSuccess⟩, after) :=
  ⟨Sandbox.process_settles, Container.sandbox_settles runtime config,
    fun _ context _ _ _ _ _ hvet hargs hline _ _ hexec =>
      Dispatcher.dispatch_of_exec hvet hargs hline hexec context⟩

/-- A dispatcher for command lines whose processes all exit with one
code. -/
def Dispatcher.exiting (code : Int) : Dispatcher where
  registry := (Registry.empty.register shellTool).2
  sandbox := Sandbox.process fun _ => pure ⟨.exited code, [], []⟩
  approver := none

/-- A machine that notes its starts, and on which everything ends in one
way. -/
def Sandbox.ending (ending : Ending) : Machine := fun l w =>
  (⟨ending, [], []⟩, { w with started := w.started ++ [l] })

/-- A command that waits. -/
def Container.waiting : Command where
  program := "sleep"
  args := ["9"]
  stdin := none
  workDir := none
  env := []

/-- A command line that exits with another code than nought is told to the
model as an error. A container whose deadline passes or whose invocation is
cancelled is removed, by the name it was started with; one that ends by
itself is not. -/
theorem commands_settle_exiting :
    ((Dispatcher.exiting 3).dispatch ⟨none, "a"⟩
      ⟨"c1", "shell", .ofFields [("command", .str "exit 3")]⟩ .default).on default =
        (.ok ⟨"c1", "[exit code: 3]", true⟩, default) ∧
    ∃ l : Launch, ["run", "--rm", "--name", "toolgate-0-0"] <+: l.args ∧
      (∀ ending ∈ [.deadline, .cancelled],
        (((Container.sandbox (Sandbox.ending ending) "docker" .default).exec Container.waiting
          .default).on default).2.started =
            [l, Container.removal "docker" "toolgate-0-0"]) ∧
      (((Container.sandbox (Sandbox.ending (.exited 0)) "docker" .default).exec Container.waiting
        .default).on default).2.started = [l] := by
  obtain ⟨-, hcontainer, hdispatch⟩ := commands_settle "docker" .default
  refine ⟨?_, ?_⟩
  · exact hdispatch (.exiting 3) ⟨none, "a"⟩
      ⟨"c1", "shell", .ofFields [("command", .str "exit 3")]⟩ .default default default
      ⟨"exit 3", none, none⟩ rfl (by decide +kernel) (by decide +kernel) ⟨"", "", 3, none⟩ default
      rfl
  · have hlet : ¬ (Container.waiting.isBlank = true ∨
        Container.PathFails (default : World).files (default : World).cwd .default
          Container.waiting) := by
      rintro (hblank | ⟨dir, hdir, -⟩ | ⟨root, hroot, -⟩)
      · exact absurd hblank (by decide)
      · cases hdir
      · cases hroot
    obtain ⟨l, start, ⟨-, hargs⟩, -, hruns⟩ :=
      (hcontainer Container.waiting .default default).runs hlet
    have hname : Container.nameIn default = "toolgate-0-0" := by decide +kernel
    rw [hname] at hargs
    have hstarted (ending : Ending) : (((Container.sandbox (Sandbox.ending ending) "docker"
        .default).exec Container.waiting .default).on default).2.started = l ::
          if ending.Killed then [Container.removal "docker" (Container.nameIn default)] else [] := by
      obtain ⟨result, -, -, hnotes⟩ := hruns (Sandbox.ending ending)
      exact hnotes fun _ _ => rfl
    refine ⟨l, hargs, ?_, ?_⟩
    · intro ending hending
      have hkilled : ending.Killed := by simpa [Ending.Killed] using hending
      rw [hstarted, if_pos hkilled, hname]
    · have hnot : ¬ (Ending.exited 0).Killed := by decide
      rw [hstarted, if_neg hnot]

end Turnstile
