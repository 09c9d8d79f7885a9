import Turnstile.Proofs.Act
import Turnstile.Proofs.Web.Hops
import Turnstile.Sandbox.Container
import Turnstile.Tool.Builtin
import Mathlib.Tactic.Common
/-!
# Refusals — a call at fault changes nothing

An error in the input or a violation of the policy is found before
anything is done. Each sandbox and each tool is read along the lines of
what it is made of: first it looks, and from its first change on, what
fails is not the call's fault any more. The exception is a redirect, which
is judged when a request has been sent (`HttpTool.follow_refused`).
-/

namespace Turnstile

open Act

/-- The call itself is at fault, not what came of it. -/
def ToolError.isRefusal : ToolError → Bool
  | .invalidInput _ | .policyViolation _ => true
  | _ => false

/-- Nothing to start, or nowhere to start it. -/
def SandboxError.isRefusal : SandboxError → Bool
  | .emptyProgram | .refused _ => true
  | _ => false

/-- A sandbox finds fault with a command before it does anything. -/
def Sandbox.RefusesFirst (sandbox : Sandbox) : Prop :=
  ∀ command policy, FailsEarly SandboxError.isRefusal (sandbox.exec command policy)

/-- A tool finds fault with a call before it does anything. -/
def Tool.RefusesFirst (tool : Tool) (sandbox : Sandbox) : Prop :=
  ∀ context input policy,
    FailsEarly ToolError.isRefusal (tool.execute context input sandbox policy)

/-! ## Sandboxes -/

theorem Sandbox.still_guarded {α : Type} (check : FileTree → AbsPath → Except PathRefusal α) :
    Still (Sandbox.guarded check) :=
  still_look.bind fun w => (still_ofExcept (check w.files w.cwd)).orElse _

theorem Sandbox.process_refusesFirst (machine : Machine) :
    (Sandbox.process machine).RefusesFirst := by
  intro command policy
  have hrun (workDir : Option String) : Never SandboxError.isRefusal do
      let run ← (machine {
        program := command.program
        args := command.args
        env := command.env
        workDir
        stdin := command.stdin
        limit := policy.effectiveTimeout
        heedsCancel := true } : StateM World Run)
      return run.result command.program policy.effectiveTimeout policy.effectiveMaxOutputBytes :=
    (never_lift _).bind fun _ => never_pure _
  simp only [Sandbox.process]
  refine FailsEarly.unless ?_ _ _
  cases command.workDir with
  | none => exact FailsEarly.bind_of_still (still_pure _) fun workDir => (hrun workDir).failsEarly
  | some dir =>
    refine FailsEarly.bind_of_still (still_guarded _) fun dir => ?_
    exact FailsEarly.bind_of_still (still_pure _) fun workDir => (hrun workDir).failsEarly

theorem Container.sandbox_refusesFirst (machine : Machine) (runtime : String)
    (config : ContainerConfig) : (Container.sandbox machine runtime config).RefusesFirst := by
  intro command policy
  have hname : Never SandboxError.isRefusal (Container.nextName : Act SandboxError String) :=
    never_look.bind fun _ => (never_change _).bind fun _ => never_pure _
  simp only [Container.sandbox]
  refine FailsEarly.unless ?_ _ _
  refine FailsEarly.bind_of_still (Sandbox.still_guarded _) fun mounts => Never.failsEarly ?_
  exact hname.bind fun name => (never_lift _).bind fun run => never_pure _

/-! ## Tools -/

theorem Tool.still_input {α : Type} (reader : Reader α) (input : Json) :
    Still (Tool.input reader input) := by
  rw [Tool.input]
  split
  · exact still_pure _
  · exact still_throw _

theorem FileTool.still_guarded
    (check : FileTree → AbsPath → Policy → String → Except PathRefusal CheckedPath)
    (policy : Policy) (path : String) : Still (FileTool.guarded check policy path) :=
  still_look.bind fun w =>
    ((still_ofExcept (check w.files w.cwd policy path)).orElse _).bind fun _ => still_pure _

/-- A shell's command line is given to a sandbox once the input is found to
be in order; what comes of it is not the call's fault. -/
theorem shellTool_refusesFirst {sandbox : Sandbox} (h : sandbox.RefusesFirst) :
    shellTool.RefusesFirst sandbox := by
  intro context input policy
  refine FailsEarly.bind_of_still (Tool.still_input _ _) fun args => ?_
  refine FailsEarly.unless ?_ _ _
  have hexec : FailsEarly ToolError.isRefusal
      ((sandbox.exec (ShellTool.command args) (ShellTool.narrowed policy args.timeout)).orElse
        ToolError.ofSandbox) :=
    (h _ _).orElse fun e he => by cases e <;> first | rfl | exact he
  -- the command may have run: cancellation and its result are not refusals
  refine hexec.bind_of_never fun result => never_look.bind fun w => ?_
  refine Never.unless (never_ofExcept fun e he => ?_) _ rfl
  rw [ShellTool.answer] at he
  split at he
  · cases he
  · cases he
    rfl

/-- Reading looks at the world and no more. -/
theorem readFileTool_refusesFirst (sandbox : Sandbox) : readFileTool.RefusesFirst sandbox := by
  intro context input policy
  refine Still.failsEarly ?_
  refine (Tool.still_input _ _).bind fun args => ?_
  refine (FileTool.still_guarded _ _ _).bind fun path => still_look.bind fun w => ?_
  exact (still_ofExcept _).bind fun bytes => still_pure _

/-- What fails once directories may have been made is the file system. -/
theorem WriteFileTool.never_ensureParent (path : String) (createDirs : Bool) :
    Never ToolError.isRefusal (WriteFileTool.ensureParent path createDirs) := by
  rw [WriteFileTool.ensureParent]
  refine never_look.bind fun w => ?_
  split
  · exact never_pure _
  · split
    · exact never_pure _
    · refine Never.unless ((never_change _).bind fun _ => ?_) _ rfl
      split
      · exact never_throw rfl
      · exact never_pure _

/-- A path is judged before its directory is made and its file opened. -/
theorem writeFileTool_refusesFirst (sandbox : Sandbox) : writeFileTool.RefusesFirst sandbox := by
  intro context input policy
  refine FailsEarly.bind_of_still (Tool.still_input _ _) fun args => ?_
  -- the guard is the last to refuse
  refine FailsEarly.bind_of_still (FileTool.still_guarded _ _ _) fun path => Never.failsEarly ?_
  refine (WriteFileTool.never_ensureParent path args.createDirs).bind fun _ => ?_
  refine never_look.bind fun w => ?_
  dsimp only
  split
  · exact (never_throw rfl).bind fun _ => never_pure _
  · exact (never_change _).bind fun _ => never_pure _

/-- A store that fails is not the call's fault. -/
theorem never_ofStore {α : Type} (act : Act StoreError α) :
    Never ToolError.isRefusal (act.orElse ToolError.ofStore) :=
  never_orElse fun _ => rfl

theorem MemoryTool.still_required (field : Option String) (name action : String) :
    Still (MemoryTool.required field name action) := by
  cases field with
  | none => exact still_throw _
  | some text =>
    rw [MemoryTool.required]
    split
    · exact still_throw _
    · exact still_pure _

/-- Notes are touched once the fields that an action needs are found. -/
theorem memoryTool_refusesFirst (store : NoteStore) (sandbox : Sandbox) :
    (memoryTool store).RefusesFirst sandbox := by
  intro context input policy
  refine FailsEarly.bind_of_still (Tool.still_input _ _) fun args => ?_
  rw [MemoryTool.perform]
  cases args.action with
  | get =>
    refine FailsEarly.bind_of_still (MemoryTool.still_required _ _ _) fun key => Never.failsEarly ?_
    refine (never_ofStore _).bind fun found => ?_
    cases found with
    | none => exact never_throw rfl
    | some value => exact never_pure _
  | set =>
    refine FailsEarly.bind_of_still (MemoryTool.still_required _ _ _) fun key => ?_
    cases args.value with
    | none => exact (still_throw _).failsEarly
    | some value => exact ((never_ofStore _).bind fun _ => never_pure _).failsEarly
  | delete =>
    refine FailsEarly.bind_of_still (MemoryTool.still_required _ _ _) fun key => Never.failsEarly ?_
    refine (never_ofStore _).bind fun found => ?_
    cases found <;> exact never_pure _
  | list => exact ((never_ofStore _).bind fun _ => never_pure _).failsEarly
  | search =>
    refine FailsEarly.bind_of_still (MemoryTool.still_required _ _ _) fun query => ?_
    exact ((never_ofStore _).bind fun _ => never_pure _).failsEarly

theorem CredentialTool.still_nameOf (args : CredentialTool.Args) :
    Still (CredentialTool.nameOf args) := by
  rw [CredentialTool.nameOf]
  split
  · split
    · exact still_throw _
    · exact still_pure _
  · exact still_throw _

/-- So are secrets. -/
theorem credentialTool_refusesFirst (store : SecretStore) (sandbox : Sandbox) :
    (credentialTool store).RefusesFirst sandbox := by
  intro context input policy
  refine FailsEarly.bind_of_still (Tool.still_input _ _) fun args => ?_
  rw [CredentialTool.perform]
  cases args.action with
  | list => exact ((never_ofStore _).bind fun _ => never_pure _).failsEarly
  | get =>
    refine FailsEarly.bind_of_still (CredentialTool.still_nameOf _) fun name => Never.failsEarly ?_
    refine (never_ofStore _).bind fun found => ?_
    cases found with
    | none => exact never_throw rfl
    | some value => exact never_pure _
  | set =>
    refine FailsEarly.bind_of_still (CredentialTool.still_nameOf _) fun name => ?_
    cases args.value with
    | none => exact (still_throw _).failsEarly
    | some value => exact ((never_ofStore _).bind fun _ => never_pure _).failsEarly
  | delete =>
    refine FailsEarly.bind_of_still (CredentialTool.still_nameOf _) fun name => Never.failsEarly ?_
    refine (never_ofStore _).bind fun found => ?_
    cases found <;> exact never_pure _

/-- A message is sent once there is one; that it is not delivered is not the
call's fault, nor that there is no session. -/
theorem notifyTool_refusesFirst (notifier : Notifier) (sandbox : Sandbox) :
    (notifyTool notifier).RefusesFirst sandbox := by
  intro context input policy
  refine FailsEarly.bind_of_still (Tool.still_input _ _) fun text => ?_
  refine FailsEarly.unless ?_ _ _
  cases context.session with
  | none => exact (never_throw rfl).failsEarly
  | some session =>
    have hsend : Never ToolError.isRefusal
        (Act.orElse (notifier session text) NotifyTool.failed) := never_orElse fun _ => rfl
    exact (hsend.bind fun _ => never_pure _).failsEarly

/-! ## Requests -/

namespace HttpTool

variable {network : Network} {policy : Policy}

/-- The first request of an input is answered with a redirect. -/
def Redirected (network : Network) (input : Json) (policy : Policy) (w : World) : Prop :=
  ∃ args hop request response, Args.reader Source.value (Doc.ofJson input) = .ok args ∧
    firstHop args policy = .ok hop ∧ hop.request = .ok request ∧
    ((network.send request).on w).1 = .ok response ∧ (target? hop.url response).isSome

/-- Reading a body fails for what came of it. -/
theorem gather_error (max : Nat) (read : Bytes) {body : Body} {e : ToolError}
    (h : gather max read body = .error e) : e.isRefusal = false := by
  induction body generalizing read with
  | nil => cases h
  | cons next body ih =>
    cases next with
    | chunk bytes =>
      rw [gather] at h
      split at h
      · cases h
      · exact ih _ h
    | failure text =>
      cases h
      rfl
    | silence =>
      cases h
      rfl

/-- What is made of a last answer is not the call's fault. -/
theorem never_answer (response : HttpResponse) :
    Never ToolError.isRefusal (Act.ofExcept (answer policy response)) := by
  refine never_ofExcept fun e h => ?_
  rw [answer] at h
  cases hread : gather policy.effectiveMaxOutputBytes [] response.body with
  | error e' =>
    rw [hread] at h
    cases h
    exact gather_error _ _ hread
  | ok got =>
    rw [hread] at h
    change (if response.isSuccess = true then _ else _) = _ at h
    split at h
    · cases h
    · cases h
      rfl

/-- **A request that is refused** was not sent, or was answered with a
redirect. -/
theorem follow_refused (left : Nat) (hop : Hop) {w : World} {e : ToolError}
    (h : ((follow network policy left hop).on w).1 = .error e) (he : e.isRefusal = true) :
    ((follow network policy left hop).on w).2 = w ∨
      ∃ request response, hop.request = .ok request ∧
        ((network.send request).on w).1 = .ok response ∧ (target? hop.url response).isSome := by
  rw [follow_on, send_on] at h ⊢
  by_cases hc : w.isCancelled = true
  · rw [if_pos hc]
    exact Or.inl rfl
  rw [if_neg hc] at h ⊢
  cases hr : hop.request with
  | error text => exact Or.inl rfl
  | ok request =>
    -- the request is sent, and of what comes then only a redirect is judged
    rw [hr] at h
    dsimp only at h
    refine Or.inr ⟨request, ?_⟩
    rcases hsend : (network.send request).on w with ⟨text | response, after⟩
    · rw [hsend] at h
      cases h
      cases he
    · refine ⟨response, rfl, rfl, ?_⟩
      cases htarget : target? hop.url response with
      | none =>
        rw [hsend] at h
        dsimp only [Except.mapError] at h
        rw [htarget] at h
        cases h
      | some target => rfl

/-- **A call that is refused** has done nothing, unless its first request
was answered with a redirect. -/
theorem execute_refused {input : Json} {w : World} {e : ToolError}
    (h : ((execute network input policy).on w).1 = .error e) (he : e.isRefusal = true)
    (hdirect : ¬ Redirected network input policy w) :
    ((execute network input policy).on w).2 = w := by
  rw [execute] at h ⊢
  cases hargs : Args.reader Source.value (Doc.ofJson input) with
  | error mismatch =>
    rw [Tool.input, hargs]
    rfl
  | ok args =>
    have hinput : Tool.input Args.reader input = pure args := by rw [Tool.input, hargs]
    rw [hinput, pure_bind] at h ⊢
    cases hfirst : firstHop args policy with
    | error e' => rfl
    | ok hop =>
      have hanswer (response : HttpResponse) : Never ToolError.isRefusal (do
          if (← Act.look).isCancelled then throw .cancelled
          Act.ofExcept (answer policy response)) :=
        never_look.bind fun _ => (never_answer response).unless _ rfl
      have hhop : (Act.ofExcept (.ok hop) : Act ToolError Hop) = pure hop := rfl
      rw [hfirst, hhop, pure_bind] at h
      rw [hhop, pure_bind]
      rcases bind_cases (follow network policy redirectLimit hop) _ w with
        ⟨e', after, hrun, hbind⟩ | ⟨response, after, -, hbind⟩
      · rw [hbind] at h ⊢
        cases h
        rcases follow_refused redirectLimit hop (by rw [hrun]) he with
          hsame | ⟨request, response, hrequest, hresponse, htarget⟩
        · rwa [hrun] at hsame
        · exact absurd ⟨args, hop, request, response, hargs, hfirst, hrequest, hresponse, htarget⟩
            hdirect
      · rw [hbind] at h
        rw [hanswer response after e h] at he
        cases he

end HttpTool

/-! ## All of them -/

/-- **Refusals come first.** Whatever the input, the policy, the context
and the world, a tool that finds the input invalid or the policy violated
has left the world as it was: the shell in a process, in a container and
in any other sandbox that keeps to this itself, the files, and the stores
and the session whoever keeps them. So has a request, if no redirect was
received. -/
theorem refusals_come_first :
    (∀ machine, shellTool.RefusesFirst (Sandbox.process machine)) ∧
    (∀ machine runtime config, shellTool.RefusesFirst (Container.sandbox machine runtime config)) ∧
    (∀ sandbox, Sandbox.RefusesFirst sandbox → shellTool.RefusesFirst sandbox) ∧
    (∀ notes secrets notifier sandbox, ∀ tool ∈ [readFileTool, writeFileTool, memoryTool notes,
      credentialTool secrets, notifyTool notifier], tool.RefusesFirst sandbox) ∧
    ∀ network context input sandbox policy w e,
      (((httpTool network).execute context input sandbox policy).on w).1 = .error e →
      e.isRefusal = true → ¬ HttpTool.Redirected network input policy w →
      (((httpTool network).execute context input sandbox policy).on w).2 = w := by
  refine ⟨fun machine => shellTool_refusesFirst (Sandbox.process_refusesFirst machine),
    fun machine runtime config =>
      shellTool_refusesFirst (Container.sandbox_refusesFirst machine runtime config),
    fun sandbox h => shellTool_refusesFirst h, ?_,
    fun network context input sandbox policy w e h he hdirect =>
      HttpTool.execute_refused h he hdirect⟩
  intro notes secrets notifier sandbox
  simp only [List.forall_mem_cons]
  exact ⟨readFileTool_refusesFirst sandbox, writeFileTool_refusesFirst sandbox,
    memoryTool_refusesFirst notes sandbox, credentialTool_refusesFirst secrets sandbox,
    notifyTool_refusesFirst notifier sandbox, List.forall_mem_nil _⟩

/-- A sandbox that finds fault with every command. -/
def Sandbox.closed : Sandbox where
  name := "closed"
  exec _ _ := throw .emptyProgram

/-- An input that a command, a file or a request may be read from. -/
def Tool.sampleInput : Json := .ofFields
  [("command", .str "ls"), ("path", .str "/b/c"), ("content", .str ""),
    ("url", .str "http://a.test/")]

/-- One directory may be touched, and no host. -/
def Policy.narrow : Policy := { Policy.default with allowedPaths := ["/a"] }

/-- In a closed sandbox a command is refused, outside the directory a path,
and without a network a request; the world is as it was. -/
theorem refusals_come_first_sample :
    let w := World.fresh ⟨[]⟩ []
    let run (tool : Tool) :=
      (tool.execute ⟨none, ""⟩ Tool.sampleInput Sandbox.closed .narrow).on w
    run shellTool = (.error (.invalidInput "Command program is empty"), w) ∧
      run writeFileTool =
        (.error (.policyViolation "Path /b/c is outside the allowed roots (/a)"), w) ∧
      run (httpTool .unreachable) = (.error (.policyViolation "network access is denied"), w) := by
  intro w run
  obtain ⟨-, -, hshell, htools, hrequests⟩ := refusals_come_first
  have hclosed : Sandbox.closed.RefusesFirst := fun _ _ _ _ _ _ => rfl
  have hcommand : (run shellTool).1 = .error (.invalidInput "Command program is empty") := by
    decide +kernel
  have hpath : (run writeFileTool).1 =
      .error (.policyViolation "Path /b/c is outside the allowed roots (/a)") := by
    decide +kernel
  have hrequest : (run (httpTool .unreachable)).1 =
      .error (.policyViolation "network access is denied") := by
    decide +kernel
  have hdirect : ¬ HttpTool.Redirected .unreachable Tool.sampleInput .narrow w := by
    rintro ⟨args, hop, request, response, hargs, hfirst, -⟩
    have hnone : (HttpTool.Args.reader Source.value (Doc.ofJson Tool.sampleInput)).toOption.bind
        (fun args => (HttpTool.firstHop args .narrow).toOption) = none := by
      decide +kernel
    rw [hargs] at hnone
    change (HttpTool.firstHop args .narrow).toOption = none at hnone
    rw [hfirst] at hnone
    cases hnone
  have hwrite := htools .inMemory .inMemory (fun _ _ => throw .noSession) Sandbox.closed
    writeFileTool (by simp)
  exact ⟨Prod.ext hcommand (hshell _ hclosed _ _ _ w _ hcommand rfl),
    Prod.ext hpath (hwrite _ _ _ w _ hpath rfl),
    Prod.ext hrequest (hrequests _ _ _ _ _ w _ hrequest rfl hdirect)⟩

end Turnstile
