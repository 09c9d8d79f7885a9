import Turnstile.Tool.Dispatch
/-!
# The gate — when a call is run

Dispatch looks whether it is cancelled, consults an approver and invokes a
tool, and what is done with these three is all it does with the world. So
it is written here for any hands that do them (`dispatchBy`). With hands
that just do it is dispatch (`dispatchBy_plain`); with hands that note each
consultation and each invocation it leaves a journal of them, and nothing
else is different (`dispatch_eq_noted`).
-/

namespace Turnstile

/-- What dispatch does with its surroundings. -/
structure Hands (m : Type → Type) where
  cancelled : m Bool
  consult : Approver → ToolCall → m Approval
  invoke : Tool → ToolContext → Json → Sandbox → Policy → m (Except ToolError String)

namespace Dispatcher

section

variable {m : Type → Type} [Monad m] (hands : Hands m) (d : Dispatcher)

/-- Have a call approved by these hands. -/
def approveBy (call : ToolCall) : ExceptT ToolError m Unit :=
  match d.approver with
  | none =>
    throw (.policyViolation
      ("tool '" ++ call.name ++ "' requires approval and no approver is configured"))
  | some approver => do
    match ← (hands.consult approver call : m Approval) with
    | .approved => return
    | .denied reason =>
      throw (.policyViolation ("tool '" ++ call.name ++ "' denied: " ++ reason))

/-- The tool a call goes to, by these hands. -/
def vetBy (call : ToolCall) (policy : Policy) : ExceptT ToolError m Tool := do
  if ← (hands.cancelled : m Bool) then throw .cancelled
  let tool ← ExceptT.mk (pure (d.registry.get call.name))
  if policy.requireApproval then d.approveBy hands call
  return tool

/-- Run a call by these hands. -/
def dispatchBy (context : ToolContext) (call : ToolCall) (policy : Policy) :
    ExceptT ToolError m ToolResult := do
  let tool ← d.vetBy hands call policy
  ExceptT.mk (ToolResult.ofAnswer call.id <$>
    hands.invoke tool context call.input d.sandbox policy)

end

end Dispatcher

namespace Hands

/-- Hands that just do. -/
def plain : Hands (StateM World) where
  cancelled := do return (← get).isCancelled
  consult approver call := approver call
  invoke tool context input sandbox policy := (tool.execute context input sandbox policy).run

end Hands

/-- With hands that just do it is dispatch. -/
theorem Dispatcher.dispatchBy_plain (d : Dispatcher) (context : ToolContext) (call : ToolCall)
    (policy : Policy) :
    d.dispatchBy .plain context call policy = d.dispatch context call policy :=
  rfl

/-! ## The journal -/

/-- What a journal notes. -/
inductive Step where
  | consulted (call : ToolCall) (decision : Approval)
  | invoked (tool : Tool) (context : ToolContext) (input : Json) (sandbox : Sandbox)
    (policy : Policy) (answer : Except ToolError String)

namespace Step

/-- An approver was consulted. -/
def isConsultation : Step → Bool
  | .consulted .. => true
  | .invoked .. => false

/-- What a tool answered that was invoked. -/
def answer? : Step → Option (Except ToolError String)
  | .consulted .. => none
  | .invoked _ _ _ _ _ answer => some answer

end Step

/-- A world and the steps on the way to it. -/
structure Journal where
  world : World
  steps : List Step

/-- Hands that note what they do. -/
def Hands.noted : Hands (StateM Journal) where
  cancelled := do return (← get).world.isCancelled
  consult approver call := fun j =>
    let (decision, world) := approver call j.world
    (decision, ⟨world, j.steps ++ [.consulted call decision]⟩)
  invoke tool context input sandbox policy := fun j =>
    let (answer, world) := (tool.execute context input sandbox policy).on j.world
    (answer, ⟨world, j.steps ++ [.invoked tool context input sandbox policy answer]⟩)

/-- Run a call and note the steps. -/
def Dispatcher.noted (d : Dispatcher) (context : ToolContext) (call : ToolCall) (policy : Policy)
    (w : World) : Except ToolError ToolResult × Journal :=
  StateT.run (d.dispatchBy .noted context call policy).run ⟨w, []⟩

section

variable {σ ε α β : Type} (s : σ)

/-- The second action runs where the first left the state, unless that
failed. -/
theorem run_bind (act : ExceptT ε (StateM σ) α) (next : α → ExceptT ε (StateM σ) β) :
    StateT.run (act >>= next).run s =
      match StateT.run act.run s with
      | (.ok x, after) => StateT.run (next x).run after
      | (.error e, after) => (.error e, after) := by
  change (ExceptT.bindCont next (StateT.run act.run s).1).run (StateT.run act.run s).2 = _
  rcases StateT.run act.run s with ⟨e | x, after⟩ <;> rfl

theorem run_lift (act : StateM σ α) :
    StateT.run (liftM act : ExceptT ε (StateM σ) α).run s = (.ok (act s).1, (act s).2) :=
  rfl

theorem run_pure_mk (e : Except ε α) :
    StateT.run (ExceptT.mk (pure e) : ExceptT ε (StateM σ) α).run s = (e, s) :=
  rfl

end

/-! ## Notes change nothing -/

section

variable {ε α β : Type}

/-- An action that keeps a journal is another one, but for the steps. -/
def Erases (noting : ExceptT ε (StateM Journal) α) (act : Act ε α) : Prop :=
  ∀ j, act.on j.world = ((StateT.run noting.run j).1, (StateT.run noting.run j).2.world)

theorem Erases.bind {noting : ExceptT ε (StateM Journal) α} {act : Act ε α}
    {noting' : α → ExceptT ε (StateM Journal) β} {act' : α → Act ε β} (h : Erases noting act)
    (h' : ∀ x, Erases (noting' x) (act' x)) : Erases (noting >>= noting') (act >>= act') := by
  intro j
  rw [Act.on_bind, run_bind, h j]
  rcases StateT.run noting.run j with ⟨e | x, after⟩
  · rfl
  · exact h' x after

end

namespace Dispatcher

variable {d : Dispatcher} {context : ToolContext} {call : ToolCall} {policy : Policy} {w : World}

theorem erases_approveBy : Erases (d.approveBy .noted call) (d.approveBy .plain call) := by
  rw [approveBy, approveBy]
  cases d.approver with
  | none => exact fun _ => rfl
  | some approver =>
    refine Erases.bind (fun _ => rfl) fun decision => ?_
    cases decision <;> exact fun _ => rfl

theorem erases_vetBy : Erases (d.vetBy .noted call policy) (d.vetBy .plain call policy) := by
  refine Erases.bind (fun _ => rfl) fun cancelled => ?_
  cases cancelled with
  | true => exact fun _ => rfl
  | false =>
    refine Erases.bind (fun _ => rfl) fun tool => ?_
    cases policy.requireApproval with
    | true => exact Erases.bind erases_approveBy fun _ _ => rfl
    | false => exact fun _ => rfl

/-- **Notes change nothing**: the outcome is that of dispatch, and so is the
world. -/
theorem dispatch_eq_noted :
    (d.dispatch context call policy).on w =
      ((d.noted context call policy w).1, (d.noted context call policy w).2.world) := by
  rw [← dispatchBy_plain]
  exact Erases.bind erases_vetBy (fun _ _ => rfl) ⟨w, []⟩

/-! ## What stands in the way of a call -/

/-- There is an approver, and it approves of the call. -/
def Approves (d : Dispatcher) (call : ToolCall) (w : World) : Prop :=
  ∃ approver, d.approver = some approver ∧ (approver call w).1 = .approved

/-- The call is run: nobody has cancelled, its tool is there, and if it
needs approval it has it. -/
structure Admitted (d : Dispatcher) (call : ToolCall) (policy : Policy) (w : World) : Prop where
  live : w.isCancelled = false
  registered : ∃ tool, d.registry.find? call.name = some tool
  approved : policy.requireApproval = false ∨ d.Approves call w

/-- A journal of consultations: at most one, about the call, and only where
one is called for. -/
structure Consulted (d : Dispatcher) (call : ToolCall) (policy : Policy) (w : World)
    (steps : List Step) : Prop where
  atMostOnce : steps.length ≤ 1
  about : ∀ s ∈ steps, ∃ decision, s = .consulted call decision
  calledFor : steps ≠ [] → w.isCancelled = false ∧
    (∃ tool, d.registry.find? call.name = some tool) ∧ policy.requireApproval = true

theorem consulted_nil : Consulted d call policy w [] :=
  ⟨Nat.zero_le 1, List.forall_mem_nil _, fun h => absurd rfl h⟩

theorem consulted_of_required (hlive : w.isCancelled = false) {tool : Tool}
    (htool : d.registry.find? call.name = some tool) (hrequired : policy.requireApproval = true)
    {steps : List Step} (hsteps : steps = [] ∨ ∃ decision, steps = [.consulted call decision]) :
    Consulted d call policy w steps := by
  rcases hsteps with rfl | ⟨decision, rfl⟩
  · exact consulted_nil
  · exact ⟨Nat.le_refl 1, fun _ hs => ⟨decision, List.mem_singleton.mp hs⟩,
      fun _ => ⟨hlive, ⟨tool, htool⟩, hrequired⟩⟩

/-- Approval: the approver, if there is one, is consulted once, and without
its consent the turn ends. -/
theorem approveBy_noted (d : Dispatcher) (call : ToolCall) (w : World) :
    ∃ world steps, (steps = [] ∨ ∃ decision, steps = [.consulted call decision]) ∧
      ((StateT.run (d.approveBy .noted call).run ⟨w, []⟩ = (.ok (), ⟨world, steps⟩) ∧
          d.Approves call w) ∨
        ∃ e, StateT.run (d.approveBy .noted call).run ⟨w, []⟩ = (.error e, ⟨world, steps⟩) ∧
          ¬ d.Approves call w ∧ e.abortsTurn = true) := by
  rw [approveBy]
  cases happrover : d.approver with
  | none =>
    refine ⟨w, [], Or.inl rfl, Or.inr ⟨_, rfl, fun h => ?_, rfl⟩⟩
    obtain ⟨approver, hsome, -⟩ := h
    rw [happrover] at hsome
    cases hsome
  | some approver =>
    have hconsult : Hands.noted.consult approver call ⟨w, []⟩ =
        ((approver call w).1,
          ⟨(approver call w).2, [.consulted call (approver call w).1]⟩) := rfl
    simp only [run_bind, run_lift, hconsult]
    refine ⟨(approver call w).2, _, Or.inr ⟨(approver call w).1, rfl⟩, ?_⟩
    cases hdecision : (approver call w).1 with
    | approved => exact Or.inl ⟨rfl, approver, happrover, hdecision⟩
    | denied reason =>
      refine Or.inr ⟨_, rfl, fun h => ?_, rfl⟩
      obtain ⟨approver', hsome, happroved⟩ := h
      rw [happrover, Option.some.injEq] at hsome
      rw [← hsome, hdecision] at happroved
      cases happroved

/-- **Vetting**: the call is admitted and its tool is given, or it is not
and an error is that ends the turn. Nothing but consultations has
happened. -/
theorem vetBy_noted (d : Dispatcher) (call : ToolCall) (policy : Policy) (w : World) :
    ∃ world steps, Consulted d call policy w steps ∧
      ((∃ tool, StateT.run (d.vetBy .noted call policy).run ⟨w, []⟩ = (.ok tool, ⟨world, steps⟩) ∧
          Admitted d call policy w ∧ d.registry.find? call.name = some tool) ∨
        ∃ e, StateT.run (d.vetBy .noted call policy).run ⟨w, []⟩ = (.error e, ⟨world, steps⟩) ∧
          ¬ Admitted d call policy w ∧ e.abortsTurn = true) := by
  have hlook (j : Journal) : Hands.noted.cancelled j = (j.world.isCancelled, j) := rfl
  simp only [vetBy, run_bind, run_lift, hlook]
  -- check by check; only the approver, who comes last, may change the world
  cases hlive : w.isCancelled with
  | true =>
    refine ⟨w, [], consulted_nil, Or.inr ⟨.cancelled, rfl, fun h => ?_, rfl⟩⟩
    rw [h.live] at hlive
    cases hlive
  | false =>
    simp only [Bool.false_eq_true, if_false, run_bind, run_pure_mk]
    cases htool : d.registry.find? call.name with
    | none =>
      have hget : d.registry.get call.name = .error (.notFound call.name) := by
        rw [Registry.get, htool]
      rw [hget]
      refine ⟨w, [], consulted_nil, Or.inr ⟨_, rfl, fun h => ?_, rfl⟩⟩
      obtain ⟨tool, hsome⟩ := h.registered
      rw [htool] at hsome
      cases hsome
    | some tool =>
      have hget : d.registry.get call.name = .ok tool := by rw [Registry.get, htool]
      rw [hget]
      cases hrequired : policy.requireApproval with
      | false =>
        exact ⟨w, [], consulted_nil,
          Or.inl ⟨tool, rfl, ⟨hlive, ⟨tool, htool⟩, Or.inl hrequired⟩, rfl⟩⟩
      | true =>
        simp only [if_true, run_bind]
        obtain ⟨world, steps, hsteps, ⟨hrun, happroves⟩ | ⟨e, hrun, hdenied, he⟩⟩ :=
          approveBy_noted d call w
        · rw [hrun]
          exact ⟨world, steps, consulted_of_required hlive htool hrequired hsteps,
            Or.inl ⟨tool, rfl, ⟨hlive, ⟨tool, htool⟩, Or.inr happroves⟩, rfl⟩⟩
        · rw [hrun]
          refine ⟨world, steps, consulted_of_required hlive htool hrequired hsteps,
            Or.inr ⟨e, rfl, fun h => ?_, he⟩⟩
          rcases h.approved with hfree | happroves
          · rw [hrequired] at hfree
            cases hfree
          · exact hdenied happroves

/-! ## The gate -/

/-- A dispatch with its outcome and its steps. -/
structure Gated (d : Dispatcher) (context : ToolContext) (call : ToolCall) (policy : Policy)
    (w : World) (outcome : Except ToolError ToolResult) (steps : List Step) : Prop where
  /-- The approver is consulted at most once, about this call, and only if
  approval is required, the tool is there and nobody has cancelled. -/
  consulted : Consulted d call policy w (steps.filter (·.isConsultation))
  /-- A tool is invoked at most once, -/
  atMostOnce : (steps.filterMap (·.answer?)).length ≤ 1
  /-- and exactly if the call is admitted, -/
  invoked_iff : (∃ s ∈ steps, s.answer?.isSome) ↔ Admitted d call policy w
  /-- and it is the one of that name, invoked with what the call brings,
  after all else. -/
  invoked_last : ∀ before s after, steps = before ++ s :: after → s.answer?.isSome →
    after = [] ∧ ∃ tool answer, d.registry.find? call.name = some tool ∧
      s = .invoked tool context call.input d.sandbox policy answer
  /-- There is a result exactly if it answered or failed to execute, and the
  result is that. -/
  result_iff : ∀ result, outcome = .ok result ↔ ∃ answer ∈ steps.filterMap (·.answer?), ∃ text,
    (answer = .ok text ∧ result = ⟨call.id, text, false⟩) ∨
      (answer = .error (.execution text) ∧ result = ⟨call.id, text, true⟩)
  /-- Everything else ends the turn. -/
  aborts : ∀ e, outcome = .error e → e.abortsTurn = true

namespace Consulted

variable {steps : List Step}

/-- Consultations are all there is, -/
theorem filter_eq (h : Consulted d call policy w steps) :
    steps.filter (·.isConsultation) = steps := by
  refine List.filter_eq_self.mpr fun s hs => ?_
  obtain ⟨decision, rfl⟩ := h.about s hs
  rfl

/-- and nothing was invoked. -/
theorem answer?_eq_none (h : Consulted d call policy w steps) {s : Step} (hs : s ∈ steps) :
    s.answer? = none := by
  obtain ⟨decision, rfl⟩ := h.about s hs
  rfl

theorem filterMap_eq (h : Consulted d call policy w steps) :
    steps.filterMap (·.answer?) = [] :=
  List.filterMap_eq_nil_iff.mpr fun _ hs => h.answer?_eq_none hs

end Consulted

/-- A call that is not admitted: consultations, and an error. -/
theorem gated_of_refused {steps : List Step} (hsteps : Consulted d call policy w steps)
    (hrefused : ¬ Admitted d call policy w) {e : ToolError} (he : e.abortsTurn = true) :
    Gated d context call policy w (.error e) steps where
  consulted := by rwa [hsteps.filter_eq]
  atMostOnce := by
    rw [hsteps.filterMap_eq]
    exact Nat.zero_le 1
  invoked_iff := by
    refine ⟨fun ⟨s, hs, hinvoked⟩ => ?_, fun h => absurd h hrefused⟩
    rw [hsteps.answer?_eq_none hs] at hinvoked
    cases hinvoked
  invoked_last before s after heq hinvoked := by
    have hs : s ∈ steps := by simp [heq]
    rw [hsteps.answer?_eq_none hs] at hinvoked
    cases hinvoked
  result_iff result := by simp [hsteps.filterMap_eq]
  aborts e' h := by
    cases h
    exact he

/-- What becomes of an answer. -/
theorem ofAnswer_eq_ok (id : String) (answer : Except ToolError String) (result : ToolResult) :
    ToolResult.ofAnswer id answer = .ok result ↔ ∃ text,
      (answer = .ok text ∧ result = ⟨id, text, false⟩) ∨
        (answer = .error (.execution text) ∧ result = ⟨id, text, true⟩) := by
  rcases answer with (text | text | text | text | _) | text <;>
    simp [ToolResult.ofAnswer, eq_comm]

theorem abortsTurn_of_ofAnswer {id : String} {answer : Except ToolError String} {e : ToolError}
    (h : ToolResult.ofAnswer id answer = .error e) : e.abortsTurn = true := by
  rcases answer with (text | text | text | text | _) | text <;> cases h <;> rfl

/-- A call that is admitted: consultations, and one invocation. -/
theorem gated_of_admitted {steps : List Step} (hsteps : Consulted d call policy w steps)
    (hadmitted : Admitted d call policy w) {tool : Tool}
    (htool : d.registry.find? call.name = some tool) (answer : Except ToolError String) :
    Gated d context call policy w (ToolResult.ofAnswer call.id answer)
      (steps ++ [.invoked tool context call.input d.sandbox policy answer]) where
  consulted := by
    rw [List.filter_append, hsteps.filter_eq]
    exact (List.append_nil steps).symm ▸ hsteps
  atMostOnce := by
    rw [List.filterMap_append, hsteps.filterMap_eq]
    exact Nat.le_refl 1
  invoked_iff :=
    ⟨fun _ => hadmitted, fun _ => ⟨_, List.mem_append_right _ List.mem_cons_self, rfl⟩⟩
  invoked_last before s after heq hinvoked := by
    rcases List.eq_nil_or_concat after with rfl | ⟨after, last, rfl⟩
    · obtain ⟨-, hs⟩ := List.append_inj' heq rfl
      exact ⟨rfl, tool, answer, htool, (List.singleton_inj.mp hs).symm⟩
    · -- an invocation before the last step would be among the consultations
      have hlast : before ++ s :: after.concat last = (before ++ s :: after) ++ [last] := by
        rw [List.concat_eq_append, List.append_assoc, List.cons_append]
      have hs : s ∈ steps := by simp [(List.append_inj' (heq.trans hlast) rfl).1]
      rw [hsteps.answer?_eq_none hs] at hinvoked
      cases hinvoked
  result_iff result := by
    rw [List.filterMap_append, hsteps.filterMap_eq, ofAnswer_eq_ok]
    exact ⟨fun h => ⟨answer, List.mem_cons_self, h⟩,
      fun ⟨answer', hmem, h⟩ => List.mem_singleton.mp hmem ▸ h⟩
  aborts _ h := abortsTurn_of_ofAnswer h

/-- **The gate.** Dispatch, with its steps noted and nothing else changed,
consults and invokes as it should, and gives a result or ends the turn. -/
theorem dispatch_gated (d : Dispatcher) (context : ToolContext) (call : ToolCall)
    (policy : Policy) (w : World) :
    ∃ journal : Journal,
      d.noted context call policy w = (((d.dispatch context call policy).on w).1, journal) ∧
      ((d.dispatch context call policy).on w).2 = journal.world ∧
      Gated d context call policy w ((d.dispatch context call policy).on w).1 journal.steps := by
  refine ⟨(d.noted context call policy w).2, ?_, ?_, ?_⟩
  · rw [dispatch_eq_noted]
  · rw [dispatch_eq_noted]
  · rw [dispatch_eq_noted, noted, dispatchBy, run_bind]
    obtain ⟨world, steps, hsteps, ⟨tool, hrun, hadmitted, htool⟩ | ⟨e, hrun, hrefused, he⟩⟩ :=
      vetBy_noted d call policy w
    · rw [hrun]
      exact gated_of_admitted hsteps hadmitted htool
        ((tool.execute context call.input d.sandbox policy).on world).1
    · rw [hrun]
      exact gated_of_refused hsteps hrefused he

end Dispatcher

end Turnstile
