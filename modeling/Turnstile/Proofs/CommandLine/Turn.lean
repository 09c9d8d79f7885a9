import Turnstile.CommandLine.Run
import Turnstile.Machine.Stock
import Turnstile.Proofs.Act
import Turnstile.Proofs.Json.Equality
import Turnstile.Proofs.Stream.Collecting
/-!
# A turn on the command line

The calls of an answer are dispatched one after another, all of them or up
to the first that ends the turn (`InTurn`). The handler is written here
once more with a note of every call it dispatches (`actOnNoted`), and is
the handler when the notes are left out (`actOnNoted_eq`). What it
dispatches is a start of the calls it was told; which for an answer that
was completed are the calls of the collected turn.

An answer that failed has no collected turn, and the handler does not look
at that before it dispatches: what it dispatches then is a start of the calls
it was told before the failure.
-/

namespace Turnstile

open ChatEvent

/-- What collecting comes to for events that end once: the turn told
before a report of usage, or the failure they end with. -/
theorem ChatTurn.collect_of_endsOnce {es : List ChatEvent} (h : EndsOnce es) :
    (∃ before usage, es = before ++ [.done usage] ∧
      ChatTurn.collect es = .ok ⟨String.join (before.filterMap ChatEvent.text?),
        before.filterMap ChatEvent.call?, usage⟩) ∨
    ∃ before cause, es = before ++ [.error cause] ∧ ChatTurn.collect es = .error cause := by
  obtain ⟨before, last, rfl, hquiet, hlast⟩ := h
  cases last with
  | token text => cases hlast
  | toolCall call => cases hlast
  | done usage => exact Or.inl ⟨before, usage, rfl, (Outcome.done usage [] hquiet).collect_eq⟩
  | error cause => exact Or.inr ⟨before, cause, rfl, (Outcome.failed cause [] hquiet).collect_eq⟩

namespace CommandLine

/-- A call that was dispatched, and what came of it. -/
structure Dispatched where
  call : ToolCall
  outcome : Except ToolError ToolResult

namespace Dispatched

/-- The turn goes on after it. -/
def goesOn (n : Dispatched) : Bool :=
  match n.outcome with
  | .ok _ => true
  | .error e => !e.abortsTurn

/-- It failed, as a tool or as a call. -/
def failed (n : Dispatched) : Bool :=
  match n.outcome with
  | .ok result => result.isError
  | .error _ => true

end Dispatched

/-- Showing an outcome tells of it whether the turn goes on and whether it
failed. -/
theorem showOutcome_snd (n : Dispatched) (w : World) :
    (showOutcome n.call.name n.outcome w).2 = (n.goesOn, n.failed) := by
  obtain ⟨call, e | result⟩ := n <;> rfl

/-- Calls dispatched in turn: all of them, or up to the first that ends
the turn. -/
inductive InTurn : List ToolCall → List Dispatched → Prop
  | nil : InTurn [] []
  | cons {n : Dispatched} {calls : List ToolCall} {ran : List Dispatched} :
      n.goesOn = true → InTurn calls ran → InTurn (n.call :: calls) (n :: ran)
  | last {n : Dispatched} (rest : List ToolCall) :
      n.goesOn = false → InTurn (n.call :: rest) [n]

/-- What is dispatched is a start of the calls. -/
theorem InTurn.isPrefix {calls : List ToolCall} {ran : List Dispatched} (h : InTurn calls ran) :
    ran.map Dispatched.call <+: calls := by
  induction h with
  | nil => exact List.prefix_refl []
  | cons _ _ ih => exact (List.prefix_cons_inj _).mpr ih
  | last rest _ => exact ⟨rest, rfl⟩

/-! ## Noting what is dispatched -/

section

variable (d : Dispatcher) (context : ToolContext) (policy : Policy)

/-- Dispatch a call and show what came of it: the note of it, and the world
after it. -/
def dispatchShown (call : ToolCall) (w : World) : Dispatched × World :=
  let (outcome, w) := (d.dispatch context call policy).on w
  (⟨call, outcome⟩, (showOutcome call.name outcome w).1)

/-- Run calls in turn, and note them. -/
def runCallsNoted : List ToolCall → World → (Bool × World) × List Dispatched
  | [], w => ((false, w), [])
  | call :: rest, w =>
    let (n, w) := dispatchShown d context policy call w
    if n.goesOn then
      let (later, ran) := runCallsNoted rest w
      ((later.1 || n.failed, later.2), n :: ran)
    else ((n.failed, w), [n])

/-- Running calls, by the note of the first. -/
theorem runCalls_cons (call : ToolCall) (rest : List ToolCall) (w : World) :
    runCalls d context policy (call :: rest) w =
      let (n, w) := dispatchShown d context policy call w
      if n.goesOn then
        let later := runCalls d context policy rest w
        (later.1 || n.failed, later.2)
      else (n.failed, w) := by
  -- one step of the run, by what is shown of the outcome
  have hstep (shown : World × Bool × Bool)
      (h : showOutcome call.name ((d.dispatch context call policy).on w).1
        ((d.dispatch context call policy).on w).2 = shown) :
      runCalls d context policy (call :: rest) w =
        (if shown.2.1 then (do return (← runCalls d context policy rest) || shown.2.2)
          else return shown.2.2 : StateM World Bool) shown.1 := by
    subst h
    rfl
  have hshown := showOutcome_snd ⟨call, ((d.dispatch context call policy).on w).1⟩
    ((d.dispatch context call policy).on w).2
  rw [hstep _ rfl, hshown]
  dsimp only [dispatchShown]
  split <;> rfl

/-- **Notes change nothing.** -/
theorem runCallsNoted_fst (calls : List ToolCall) (w : World) :
    (runCallsNoted d context policy calls w).1 = runCalls d context policy calls w := by
  induction calls generalizing w with
  | nil => rfl
  | cons call rest ih =>
    rw [runCalls_cons, runCallsNoted]
    dsimp only
    split
    · rw [← ih]
    · rfl

/-- **The calls are dispatched in turn.** -/
theorem runCallsNoted_inTurn (calls : List ToolCall) (w : World) :
    InTurn calls (runCallsNoted d context policy calls w).2 := by
  induction calls generalizing w with
  | nil => exact .nil
  | cons call rest ih =>
    rw [runCallsNoted]
    dsimp only
    split
    · rename_i hgoes
      exact .cons (n := (dispatchShown d context policy call w).1) hgoes (ih _)
    · rename_i hends
      exact .last (n := (dispatchShown d context policy call w).1) rest (by simpa using hends)

/-- A failure of one of them is a failure of all. -/
theorem runCallsNoted_failed (calls : List ToolCall) (w : World) :
    (runCallsNoted d context policy calls w).1.1 =
      (runCallsNoted d context policy calls w).2.any Dispatched.failed := by
  induction calls generalizing w with
  | nil => rfl
  | cons call rest ih =>
    rw [runCallsNoted]
    dsimp only
    split
    · rw [List.any_cons, Bool.or_comm, ← ih]
    · rw [List.any_cons, List.any_nil, Bool.or_false]

end

/-! ## What is done for an answer -/

/-- What came of an answer: how the command exits, the world after it, and
the calls that were dispatched. -/
structure Acted where
  exit : Except Trouble Nat
  world : World
  dispatched : List Dispatched

section

variable (s : Surroundings) (c : Config) (order : ChatOrder)

/-- Act on an answer, noting what is dispatched. -/
def actOnNoted (events : List ChatEvent) (w : World) : Acted :=
  let w := events.foldl showEvent w
  let code (failed : Bool) : Nat := if failed || hasError events then failure else success
  if order.runTools && !(callsIn events).isEmpty then
    match (dispatcherOf s c order).on w with
    | (.error trouble, w) => ⟨.error trouble, w, []⟩
    | (.ok (d, policy), w) =>
      let ((failed, w), ran) := runCallsNoted d context policy (callsIn events) w
      ⟨.ok (code failed), w, ran⟩
  else ⟨.ok (code false), w, []⟩

/-- Ask a vendor and act on the answer, noting what is dispatched. -/
def chatNoted (w : World) : Acted :=
  match (ask s c order).on w with
  | (.error trouble, w) => ⟨.error trouble, w, []⟩
  | (.ok events, w) => actOnNoted s c order events w

/-- **Notes change nothing** about what is done for an answer. -/
theorem actOnNoted_eq (events : List ChatEvent) (w : World) :
    (actOn s c order events).on w =
      ((actOnNoted s c order events w).exit, (actOnNoted s c order events w).world) := by
  rw [actOn, Act.on_bind, Act.on_change, actOnNoted]
  dsimp only
  by_cases hrun : (order.runTools && !(callsIn events).isEmpty) = true
  · rw [if_pos hrun, if_pos hrun, Act.on_bind]
    rcases (dispatcherOf s c order).on (events.foldl showEvent w) with
      ⟨trouble | ⟨d, policy⟩, after⟩
    · rfl
    · dsimp only
      rw [Act.on_bind, Act.on_lift, ← runCallsNoted_fst]
      rfl
  · rw [if_neg hrun, if_neg hrun]
    rfl

/-- Nor about the whole command. -/
theorem chatNoted_eq (w : World) :
    (chat s c order).on w = ((chatNoted s c order w).exit, (chatNoted s c order w).world) := by
  rw [chat, Act.on_bind, chatNoted]
  rcases (ask s c order).on w with ⟨trouble | events, after⟩
  · rfl
  · exact actOnNoted_eq s c order events after

/-- Calls are dispatched if that is asked for, and then in turn. -/
theorem actOnNoted_dispatched (events : List ChatEvent) (w : World) :
    (actOnNoted s c order events w).dispatched = [] ∨
      order.runTools = true ∧
        InTurn (callsIn events) (actOnNoted s c order events w).dispatched := by
  rw [actOnNoted]
  dsimp only
  by_cases hrun : (order.runTools && !(callsIn events).isEmpty) = true
  · rw [if_pos hrun]
    rcases (dispatcherOf s c order).on (events.foldl showEvent w) with
      ⟨trouble | ⟨d, policy⟩, after⟩
    · exact Or.inl rfl
    · exact Or.inr ⟨(Bool.and_eq_true_iff.mp hrun).1, runCallsNoted_inTurn ..⟩
  · rw [if_neg hrun]
    exact Or.inl rfl

/-- The exit code tells of an error in the answer and of calls that
failed. -/
theorem actOnNoted_exit (events : List ChatEvent) (w : World) {code : Nat}
    (h : (actOnNoted s c order events w).exit = .ok code) :
    code = if (actOnNoted s c order events w).dispatched.any Dispatched.failed || hasError events
      then failure else success := by
  rw [actOnNoted] at h ⊢
  dsimp only at h ⊢
  by_cases hrun : (order.runTools && !(callsIn events).isEmpty) = true
  · rw [if_pos hrun] at h ⊢
    rcases hset : (dispatcherOf s c order).on (events.foldl showEvent w) with
      ⟨trouble | ⟨d, policy⟩, after⟩
    · rw [hset] at h
      cases h
    · rw [hset] at h
      dsimp only
      rw [← runCallsNoted_failed]
      exact (Except.ok.inj h).symm
  · rw [if_neg hrun] at h ⊢
    exact (Except.ok.inj h).symm

end

/-- The calls among events are those of the collected turn, if there is
one. -/
theorem callsIn_of_collect {events : List ChatEvent} (h : EndsOnce events) {turn : ChatTurn}
    (hcollect : ChatTurn.collect events = .ok turn) : callsIn events = turn.toolCalls := by
  rcases ChatTurn.collect_of_endsOnce h with ⟨before, usage, rfl, hturn⟩ | ⟨_, _, _, hcause⟩
  · rw [hturn] at hcollect
    cases hcollect
    change (before ++ [ChatEvent.done usage]).filterMap ChatEvent.call? = _
    rw [List.filterMap_append]
    exact List.append_nil _
  · rw [hcause] at hcollect
    cases hcollect

/-- Events that are not collected have an error among them. -/
theorem hasError_of_collect {events : List ChatEvent} (h : EndsOnce events) {cause : StreamError}
    (hcollect : ChatTurn.collect events = .error cause) : hasError events = true := by
  rcases ChatTurn.collect_of_endsOnce h with ⟨_, _, _, hturn⟩ | ⟨before, _, rfl, _⟩
  · rw [hturn] at hcollect
    cases hcollect
  · rw [hasError, List.any_append]
    exact Bool.or_true _

/-- An answer is the events of a body. -/
theorem events_of_chat {network : Network} {v : Vendor} {request : ChatRequest} {w after : World}
    {events : List ChatEvent} (h : (v.chat network request).on w = (.ok events, after)) :
    ∃ body, events = v.events body := by
  rcases Vendor.chat_cases network v request w with ⟨e, hfailed⟩ | ⟨_, _, -, -, hevents⟩
  · rw [hfailed] at h
    cases h
  · obtain ⟨response, -, hbody⟩ := hevents events (by rw [h])
    exact ⟨response.body, hbody⟩

/-- What a vendor is asked is answered with events that end once. -/
theorem endsOnce_ask {s : Surroundings} {c : Config} {order : ChatOrder} {w after : World}
    {events : List ChatEvent} (h : (ask s c order).on w = (.ok events, after)) :
    EndsOnce events := by
  rw [ask] at h
  obtain ⟨vendor, _, -, h⟩ := Act.exists_of_bind h
  obtain ⟨body, rfl⟩ := events_of_chat (Act.of_orElse h)
  rw [Vendor.events]
  split
  · exact endsOnce_pumpEvents _ _ _
  · exact endsOnce_replay _

/-- **What the command dispatches.** With or without the notes it does the
same. Calls are dispatched only if that is asked for, and then in turn, all
of them or up to the first that ends the turn. For events that end once,
which are the only ones a vendor's answer comes in, these are calls of the
collected turn if there is one; and if there is none, the command fails,
unless it is stopped before. -/
theorem dispatched_in_turn (s : Surroundings) (c : Config) (order : ChatOrder) :
    (∀ events w,
      (actOn s c order events).on w =
        ((actOnNoted s c order events w).exit, (actOnNoted s c order events w).world) ∧
      ((actOnNoted s c order events w).dispatched = [] ∨ order.runTools = true ∧
        InTurn (callsIn events) (actOnNoted s c order events w).dispatched) ∧
      (EndsOnce events →
        match ChatTurn.collect events with
        | .ok turn =>
          (actOnNoted s c order events w).dispatched.map Dispatched.call <+: turn.toolCalls
        | .error _ => ∀ code, (actOnNoted s c order events w).exit = .ok code → code = failure)) ∧
    ∀ w,
      (chat s c order).on w = ((chatNoted s c order w).exit, (chatNoted s c order w).world) ∧
      ((chatNoted s c order w).dispatched = [] ∨ ∃ events after,
        (ask s c order).on w = (.ok events, after) ∧ EndsOnce events ∧
          chatNoted s c order w = actOnNoted s c order events after) := by
  refine ⟨fun events w => ⟨actOnNoted_eq s c order events w,
    actOnNoted_dispatched s c order events w, fun hends => ?_⟩, fun w =>
    ⟨chatNoted_eq s c order w, ?_⟩⟩
  · split
    · -- a turn was collected, and its calls are those that were told
      rename_i turn hcollect
      rw [← callsIn_of_collect hends hcollect]
      rcases actOnNoted_dispatched s c order events w with hnone | ⟨-, hturn⟩
      · rw [hnone]
        exact List.nil_prefix
      · exact hturn.isPrefix
    · -- none was; the error that was told sets the exit code
      rename_i cause hcollect
      intro code hexit
      rw [actOnNoted_exit s c order events w hexit, hasError_of_collect hends hcollect,
        Bool.or_true]
      rfl
  · rw [chatNoted]
    split
    · exact Or.inl rfl
    · rename_i events after hask
      exact Or.inr ⟨events, after, hask, endsOnce_ask hask, rfl⟩

/-- Surroundings in which nothing can be started or reached. -/
def quiet : Surroundings where
  machine launch := pure (Run.notStarted launch.program)
  network := .unreachable

/-- An order to run the calls of an answer, and not to ask about them. -/
def runOrder : ChatOrder where
  prompt := "go"
  vendor := none
  model := none
  system := none
  noTools := false
  runTools := true
  yes := true

/-- A call to keep a note. -/
def keepCall : ToolCall :=
  ⟨"c1", "memory", .ofFields [("action", .str "set"), ("key", .str "k"), ("value", .str "v")]⟩

/-- A call for a note without saying which. -/
def lookCall : ToolCall := ⟨"c2", "memory", .ofFields [("action", .str "get")]⟩

/-- An answer of three calls, of which the second ends the turn. -/
def threeCalls : List ChatEvent :=
  [.token "on it", .toolCall keepCall, .toolCall lookCall, .toolCall keepCall, .done ⟨3, 5⟩]

/-- Of three calls the first two are dispatched, a start of the turn. -/
theorem dispatched_in_turn_three :
    EndsOnce threeCalls ∧
    (actOnNoted quiet .default runOrder threeCalls (.fresh .empty [])).dispatched.map
      Dispatched.call = [keepCall, lookCall] ∧
    [keepCall, lookCall] <+: [keepCall, lookCall, keepCall] := by
  have hends : EndsOnce threeCalls :=
    ⟨[.token "on it", .toolCall keepCall, .toolCall lookCall, .toolCall keepCall],
      .done ⟨3, 5⟩, rfl, by simp [Quiet, isTerminal], rfl⟩
  have hran : (actOnNoted quiet .default runOrder threeCalls (.fresh .empty [])).dispatched.map
      Dispatched.call = [keepCall, lookCall] := by
    decide +kernel
  have hstart := ((dispatched_in_turn quiet .default runOrder).1 threeCalls
    (.fresh .empty [])).2.2 hends
  rw [hran] at hstart
  exact ⟨hends, hran, hstart⟩

/-- An answer of one call that failed after it. -/
def failedAnswer : List ChatEvent := [.toolCall keepCall, .error (.vendor "overloaded")]

/-- **The calls of an answer that failed are run**: the note is kept,
although there is no turn to collect. -/
theorem dispatched_of_failure :
    EndsOnce failedAnswer ∧ ChatTurn.collect failedAnswer = .error (.vendor "overloaded") ∧
    (actOnNoted quiet .default runOrder failedAnswer (.fresh .empty [])).dispatched.map
      Dispatched.call = [keepCall] ∧
    ((actOn quiet .default runOrder failedAnswer).on (.fresh .empty [])).2.memory.get? agent "k" =
      some "v" := by
  refine ⟨⟨[.toolCall keepCall], .error (.vendor "overloaded"), rfl, ?_, rfl⟩, rfl, ?_, ?_⟩
  · simp [Quiet, isTerminal]
  · decide +kernel
  · decide +kernel

end CommandLine

end Turnstile
