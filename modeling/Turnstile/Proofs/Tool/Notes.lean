import Turnstile.Proofs.Keyed
import Turnstile.Proofs.Service
import Turnstile.Proofs.Text.Lowered
import Turnstile.Tool.Stores
import Mathlib.Data.List.Infix
import Mathlib.Data.String.Basic
/-!
# Notes — agents that share one store

The notes of all agents are in one store, and every agent reads and writes
its own through one tool. What a call is told is a matter of the notes of
its agent alone (`told`), and of these it changes at the most the one it
names (`written`); the notes of the others stay what they are
(`list_serve`). So an agent is told what it would be told if it had the
store for itself, and its notes are what it wrote last under each key
(`separate`). A search goes by the rules for lower case (`Occurs`), so that
it finds a note in whatever case its letters are.
-/

namespace Turnstile

namespace MemoryTool

/-! ## One call, as a matter of the agent's notes -/

/-- A field that has to be there and not be empty. -/
def needed (field : Option String) (name action : String) : Except ToolError String :=
  match field.filter (!·.isEmpty) with
  | some text => .ok text
  | none => .error (.invalidInput ("'" ++ name ++ "' is required for " ++ action))

/-- A text holds what is asked for, letter case aside: the one in lower
case is a part of the other in lower case. -/
def Occurs (query text : String) : Prop :=
  ∃ small smallText, Text.Lowered query small ∧ Text.Lowered text smallText ∧
    small.toList <:+: smallText.toList

theorem occurs_iff {query text : String} :
    Occurs query text ↔ (Text.lower query).toList <:+: (Text.lower text).toList := by
  constructor
  · rintro ⟨small, smallText, hquery, htext, hoccurs⟩
    rw [Text.lowered_iff] at hquery htext
    rwa [hquery, htext] at hoccurs
  · exact fun hoccurs => ⟨_, _, Text.lowered_iff.mpr rfl, Text.lowered_iff.mpr rfl, hoccurs⟩

instance (query text : String) : Decidable (Occurs query text) :=
  decidable_of_iff _ occurs_iff.symm

/-- In which case the letters are written is no matter. -/
theorem occurs_congr {query query' text text' : String} (hquery : Text.SameLetters query query')
    (htext : Text.SameLetters text text') : Occurs query text ↔ Occurs query' text' := by
  rw [occurs_iff, occurs_iff, Text.lower_congr hquery, Text.lower_congr htext]

/-- What an agent with these notes is told. -/
def told (notes : List (String × String)) (args : Args) : Except ToolError String :=
  match args.action with
  | .get => do
    let key ← needed args.key "key" "get"
    match Keyed.find? key notes with
    | some value => .ok value
    | none => .error (.execution ("no memory stored under '" ++ key ++ "'"))
  | .set => do
    let key ← needed args.key "key" "set"
    match args.value with
    | some _ => .ok ("Stored '" ++ key ++ "'")
    | none => .error (.invalidInput "'value' is required for set")
  | .delete => do
    let key ← needed args.key "key" "delete"
    if (Keyed.find? key notes).isSome then .ok ("Deleted '" ++ key ++ "'")
    else .ok ("Nothing stored under '" ++ key ++ "'")
  | .list => .ok (render notes)
  | .search => do
    let query ← needed args.query "query" "search"
    .ok (render (notes.filter fun note => Occurs query note.1 ∨ Occurs query note.2))

/-- The key under which a call writes, and what it writes: a value, or
nothing where it deletes. -/
def Args.write? (args : Args) : Option (String × Option String) :=
  match args.action, args.key.filter (!·.isEmpty), args.value with
  | .set, some key, some value => some (key, some value)
  | .delete, some key, _ => some (key, none)
  | _, _, _ => none

/-- Notes after something was written, or nothing. -/
def written (notes : List (String × String)) :
    Option (String × Option String) → List (String × String)
  | some (key, some value) => Keyed.insert key value notes
  | some (key, none) => Keyed.erase key notes
  | none => notes

theorem required_on (field : Option String) (name action : String) (w : World) :
    (required field name action).on w = (needed field name action, w) := by
  rcases field with _ | text
  · rfl
  · by_cases h : text.isEmpty = true
    · simp [required, required.refuse, needed, Option.filter, h]
    · simp [required, needed, Option.filter, h]

theorem needed_of_none {field : Option String} (h : field.filter (!·.isEmpty) = none)
    (name action : String) : needed field name action =
      .error (.invalidInput ("'" ++ name ++ "' is required for " ++ action)) := by
  rw [needed, h]

theorem needed_of_some {field : Option String} {text : String}
    (h : field.filter (!·.isEmpty) = some text) (name action : String) :
    needed field name action = .ok text := by
  rw [needed, h]

/-- The notes of an agent whose notes are put in the place of its old
ones. -/
theorem list_insert (m : Memory) (agent other : String) (notes : List (String × String)) :
    (Memory.list ⟨Keyed.insert agent notes m.agents⟩ other) =
      if agent = other then notes else m.list other := by
  rw [Memory.list, Keyed.find?_insert]
  by_cases h : agent = other
  · rw [if_pos h, if_pos h, Option.getD_some]
  · rw [if_neg h, if_neg h, Memory.list]

theorem set_eq (m : Memory) (agent : String) {key : String} (hkey : key.isEmpty = false)
    (value : String) : m.set agent key value =
      .ok ⟨Keyed.insert agent (Keyed.insert key value (m.list agent)) m.agents⟩ := by
  rw [Memory.set, hkey]
  rfl

theorem delete_fst (m : Memory) (agent key : String) :
    (m.delete agent key).1 = (Keyed.find? key (m.list agent)).isSome := by
  rw [Memory.delete, Memory.list]
  rcases Keyed.find? agent m.agents with _ | notes <;> rfl

/-- Of an agent without notes there is nothing to delete. -/
theorem list_delete (m : Memory) (agent key other : String) :
    (m.delete agent key).2.list other =
      if agent = other then Keyed.erase key (m.list agent) else m.list other := by
  rw [Memory.delete]
  rcases hnotes : Keyed.find? agent m.agents with _ | notes
  · have hnone : m.list agent = [] := by rw [Memory.list, hnotes, Option.getD_none]
    by_cases h : agent = other
    · rw [if_pos h, ← h, hnone]
      rfl
    · rw [if_neg h]
  · have hlist : m.list agent = notes := by rw [Memory.list, hnotes, Option.getD_some]
    rw [hlist]
    exact list_insert m agent other _

theorem matchesQuery_eq (query : String) (note : String × String) :
    Memory.matchesQuery query note = decide (Occurs query note.1 ∨ Occurs query note.2) := by
  rw [Memory.matchesQuery, Bool.eq_iff_iff, Bool.or_eq_true, decide_eq_true_iff, Text.contains,
    Text.contains, Text.occursIn_iff, Text.occursIn_iff, occurs_iff, occurs_iff]

/-- The notes of all after an agent wrote something, or nothing. -/
def wrote (m : Memory) (agent : String) : Option (String × Option String) → Memory
  | some (key, some value) => ⟨Keyed.insert agent (Keyed.insert key value (m.list agent)) m.agents⟩
  | some (key, none) => (m.delete agent key).2
  | none => m

/-- **What an agent writes is written in its notes**, and the notes of the
others stay what they are. -/
theorem list_wrote (m : Memory) (agent other : String) (write? : Option (String × Option String)) :
    (wrote m agent write?).list other =
      if agent = other then written (m.list agent) write? else m.list other := by
  rcases write? with _ | ⟨key, _ | value⟩
  · change m.list other = if agent = other then m.list agent else m.list other
    split
    · rename_i h
      rw [h]
    · rfl
  · exact list_delete m agent key other
  · exact list_insert m agent other _

/-- **A call comes to what its agent's notes say.** -/
theorem perform_on (agent : String) (args : Args) (w : World) :
    (perform .inMemory agent args).on w =
      (told (w.memory.list agent) args,
        { w with memory := wrote w.memory agent args.write? }) := by
  obtain ⟨action, key, value, query⟩ := args
  cases action with
  | get =>
    rw [perform, Act.on_bind, required_on, told]
    rcases hkey : key.filter (!·.isEmpty) with _ | name
    · rw [needed_of_none hkey]
      rfl
    · have hget : (NoteStore.inMemory.get agent name).on w =
          (.ok (Keyed.find? name (w.memory.list agent)), w) := rfl
      rw [needed_of_some hkey]
      dsimp only
      rw [Act.on_bind, Act.on_orElse, hget]
      change Act.on (match Keyed.find? name (w.memory.list agent) with
        | some value => pure value
        | none => throw _) w = (match Keyed.find? name (w.memory.list agent) with
          | some value => Except.ok value
          | none => _, _)
      rcases Keyed.find? name (w.memory.list agent) with _ | found <;> rfl
  | set =>
    rw [perform, Act.on_bind, required_on, told, Args.write?]
    dsimp only
    rcases hkey : key.filter (!·.isEmpty) with _ | name
    · rw [needed_of_none hkey, hkey]
      rfl
    · rw [needed_of_some hkey, hkey]
      rcases value with _ | text
      · rfl
      · have hname : name.isEmpty = false := by simpa using (Option.filter_eq_some_iff.mp hkey).2
        have hset : (NoteStore.inMemory.set agent name text).on w = (.ok (),
            { w with memory := wrote w.memory agent (some (name, some text)) }) := by
          rw [NoteStore.inMemory, Act.on_bind, Act.on_look]
          dsimp only
          rw [set_eq w.memory agent hname text]
          rfl
        dsimp only
        rw [Act.on_bind, Act.on_orElse, hset]
        rfl
  | delete =>
    rw [perform, Act.on_bind, required_on, told, Args.write?]
    dsimp only
    rcases hkey : key.filter (!·.isEmpty) with _ | name
    · rw [needed_of_none hkey, hkey]
      rfl
    · have hdelete : (NoteStore.inMemory.delete agent name).on w =
          (.ok (Keyed.find? name (w.memory.list agent)).isSome,
            { w with memory := wrote w.memory agent (some (name, none)) }) := by
        rw [← delete_fst]
        rfl
      rw [needed_of_some hkey, hkey]
      dsimp only
      rw [Act.on_bind, Act.on_orElse, hdelete]
      change Act.on (if (Keyed.find? name (w.memory.list agent)).isSome then pure _ else pure _) _ =
        (if (Keyed.find? name (w.memory.list agent)).isSome then .ok _ else .ok _, _)
      split <;> rfl
  | list => rfl
  | search =>
    rw [perform, Act.on_bind, required_on, told]
    rcases hquery : query.filter (!·.isEmpty) with _ | text
    · rw [needed_of_none hquery]
      rfl
    · have hsearch : (NoteStore.inMemory.search agent text).on w =
          (.ok ((w.memory.list agent).filter fun note =>
            Occurs text note.1 ∨ Occurs text note.2), w) := by
        rw [← List.filter_congr fun note _ => matchesQuery_eq text note]
        rfl
      rw [needed_of_some hquery]
      dsimp only
      rw [Act.on_bind, Act.on_orElse, hsearch]
      rfl

/-! ## Calls on a store -/

/-- A call of the tool: for whom it is made, and what comes with it. -/
structure Call where
  context : ToolContext
  input : Json
  sandbox : Sandbox
  policy : Policy

namespace Call

/-- The agent for whom the call is made. -/
def agent (call : Call) : String := call.context.agent

/-- What the call asks for, if that can be read. -/
def args (call : Call) : Except Mismatch Args := Args.reader Source.value (Doc.ofJson call.input)

/-- What the call is told where its agent has these notes. -/
def told (notes : List (String × String)) (call : Call) : Except ToolError String :=
  match call.args with
  | .ok args => MemoryTool.told notes args
  | .error mismatch => .error (.invalidInput mismatch.message)

/-- The key under which the call writes, and what it writes there. -/
def write? (call : Call) : Option (String × Option String) :=
  match call.args with
  | .ok args => args.write?
  | .error _ => none

end Call

/-- Make a call of the tool on the world's own store. -/
def serve (w : World) (call : Call) : Except ToolError String × World :=
  ((memoryTool .inMemory).execute call.context call.input call.sandbox call.policy).on w

/-- **A call on a world**: its agent's notes say what it is told, and it
writes in these notes or nowhere. -/
theorem serve_eq (w : World) (call : Call) :
    serve w call = (call.told (w.memory.list call.agent),
      { w with memory := wrote w.memory call.agent call.write? }) := by
  change (execute .inMemory call.context call.input).on w = _
  rw [execute, Act.on_bind, Tool.input, Call.told, Call.write?, Call.args]
  rcases Args.reader Source.value (Doc.ofJson call.input) with mismatch | args
  · rfl
  · exact perform_on call.agent args w

/-- The notes of an agent after a call. -/
theorem list_serve (w : World) (call : Call) (agent : String) :
    (serve w call).2.memory.list agent =
      if call.agent = agent then written (w.memory.list agent) call.write?
      else w.memory.list agent := by
  rw [serve_eq, list_wrote]
  split
  · rename_i h
    rw [h]
  · rfl

/-! ## What is written last -/

/-- What a call writes in an agent's notes under a key, if it writes
there. -/
def writes (agent key : String) (call : Call) : Option (Option String) :=
  if call.agent = agent then
    (call.write?.filter fun write => write.1 = key).map (·.2)
  else none

/-- What an agent wrote last under a key. -/
def latest (agent key : String) (history : List Call) : Option String :=
  Service.lastWrite (writes agent key) history

theorem writes_eq_some_iff {agent key : String} {call : Call} {value : Option String} :
    writes agent key call = some value ↔ call.agent = agent ∧ call.write? = some (key, value) := by
  rw [writes]
  split
  · rename_i h
    rw [Option.map_eq_some_iff]
    constructor
    · rintro ⟨⟨key', value'⟩, hfilter, rfl⟩
      obtain ⟨hwrite, hkey⟩ := Option.filter_eq_some_iff.mp hfilter
      obtain rfl : key' = key := of_decide_eq_true hkey
      exact ⟨h, hwrite⟩
    · rintro ⟨-, hwrite⟩
      exact ⟨(key, value), by rw [hwrite]; simp, rfl⟩
  · rename_i h
    simp [h]

/-- **A note stands** exactly if a call of the agent wrote it and no later
one wrote under its key. -/
theorem latest_eq_some_iff {agent key : String} {history : List Call} {value : String} :
    latest agent key history = some value ↔
      ∃ before call later, history = before ++ call :: later ∧
        (call.agent = agent ∧ call.write? = some (key, some value)) ∧
        ∀ other ∈ later, other.agent = agent → ∀ written, other.write? ≠ some (key, written) := by
  have hleft : ∀ other, writes agent key other = none ↔
      (other.agent = agent → ∀ written, other.write? ≠ some (key, written)) := by
    intro other
    rw [Option.eq_none_iff_forall_ne_some]
    constructor
    · intro h hagent written hwrite
      exact h written (writes_eq_some_iff.mpr ⟨hagent, hwrite⟩)
    · intro h written hwrite
      obtain ⟨hagent, hwrite⟩ := writes_eq_some_iff.mp hwrite
      exact h hagent written hwrite
  simp only [latest, Service.lastWrite_eq_some_iff, writes_eq_some_iff, hleft]

theorem find?_written (notes : List (String × String)) (write? : Option (String × Option String))
    (key : String) :
    Keyed.find? key (written notes write?) =
      ((write?.filter fun write => write.1 = key).map (·.2)).getD (Keyed.find? key notes) := by
  rcases write? with _ | ⟨key', value⟩
  · rfl
  · by_cases h : key' = key
    · rcases value with _ | value
      · simp [written, Keyed.find?_erase, Option.filter, h]
      · simp [written, Keyed.find?_insert, Option.filter, h]
    · rcases value with _ | value
      · simp [written, Keyed.find?_erase, Option.filter, h]
      · simp [written, Keyed.find?_insert, Option.filter, h]

theorem sorted_written {notes : List (String × String)} (h : Keyed.Sorted notes)
    (write? : Option (String × Option String)) : Keyed.Sorted (written notes write?) := by
  rcases write? with _ | ⟨key, _ | value⟩
  · exact h
  · exact h.erase key
  · exact h.insert key value

/-- The notes of an agent after some calls: in strictly increasing order of
key, each with what the agent wrote last under that key. -/
structure Current (history : List Call) (agent : String) (notes : List (String × String)) :
    Prop where
  ordered : Keyed.Sorted notes
  latest : ∀ key value, (key, value) ∈ notes ↔ latest agent key history = some value

theorem Current.unique {history : List Call} {agent : String}
    {notes notes' : List (String × String)} (h : Current history agent notes)
    (h' : Current history agent notes') : notes = notes' := by
  refine h.ordered.ext h'.ordered fun key => Option.ext fun value => ?_
  rw [h.ordered.find?_eq_some_iff, h'.ordered.find?_eq_some_iff, h.latest, h'.latest]

/-- The world without notes. -/
def blank (w : World) : World := { w with memory := .empty }

theorem find?_after (w : World) (history : List Call) (agent key : String) :
    Keyed.find? key ((Service.after serve (blank w) history).memory.list agent) =
      latest agent key history := by
  refine Service.view_after serve (fun w => Keyed.find? key (w.memory.list agent))
    (writes agent key) (fun w call => ?_) rfl history
  rw [list_serve, writes]
  split
  · exact find?_written (w.memory.list agent) call.write? key
  · rfl

theorem sorted_after (w : World) (history : List Call) (agent : String) :
    Keyed.Sorted ((Service.after serve (blank w) history).memory.list agent) := by
  refine Service.invariant_after serve (fun w => Keyed.Sorted (w.memory.list agent))
    (fun w call h => ?_) (s := blank w) Keyed.sorted_nil history
  rw [list_serve]
  split
  · exact sorted_written h call.write?
  · exact h

/-- **The notes of an agent are what it wrote last.** -/
theorem current_after (w : World) (history : List Call) (agent : String) :
    Current history agent ((Service.after serve (blank w) history).memory.list agent) where
  ordered := sorted_after w history agent
  latest key value := by
    rw [← (sorted_after w history agent).find?_eq_some_iff, find?_after]

/-! ## One agent and the others -/

/-- Calls of others leave an agent's notes alone, -/
theorem list_serve_of_ne {w : World} {call : Call} {agent : String} (h : call.agent ≠ agent) :
    (serve w call).2.memory.list agent = w.memory.list agent := by
  rw [list_serve, if_neg h]

/-- and its own come to the same wherever its notes are the same. -/
theorem serve_of_list_eq {w w' : World} {call : Call} {agent : String} (hown : call.agent = agent)
    (h : w.memory.list agent = w'.memory.list agent) :
    (serve w call).2.memory.list agent = (serve w' call).2.memory.list agent ∧
      (serve w call).1 = (serve w' call).1 := by
  subst hown
  constructor
  · rw [list_serve, list_serve, h]
  · rw [serve_eq, serve_eq, h]

/-- What agents see that share a store that starts out empty in one world,
and what each of them sees on its own in the other. -/
structure Separate (w w' : World) (history : List Call) : Prop where
  /-- Every call is answered, and in turn. -/
  answered : (Service.run serve (blank w) history).map (·.1) = history
  /-- An agent is told what it is told where nobody else makes any calls. -/
  alone : ∀ agent,
    (Service.run serve (blank w) history).filter (fun entry => entry.1.agent = agent) =
      Service.run serve (blank w') (history.filter fun call => call.agent = agent)
  /-- At any time it has one list of notes, -/
  current : ∀ i agent, ∃ notes, Current (history.take i) agent notes ∧
    ∀ notes', Current (history.take i) agent notes' → notes' = notes
  /-- of which a note is there exactly if some call of the agent wrote it
  and no later one wrote under its key, -/
  latest_iff : ∀ i agent key value, latest agent key (history.take i) = some value ↔
    ∃ before call later, history.take i = before ++ call :: later ∧
      (call.agent = agent ∧ call.write? = some (key, some value)) ∧
      ∀ other ∈ later, other.agent = agent → ∀ written, other.write? ≠ some (key, written)
  /-- and these notes tell it what it is told, -/
  told : ∀ i call result notes, (Service.run serve (blank w) history)[i]? = some (call, result) →
    Current (history.take i) call.agent notes → result = call.told notes
  /-- a search with no regard to the case in which letters are written. -/
  anyCase : ∀ query query' text text', Text.SameLetters query query' →
    Text.SameLetters text text' → (Occurs query text ↔ Occurs query' text')

/-- Two agents, one of which looks for its note and for both notes in
another case, and the other for the note of the first. -/
def shouted : List Call :=
  [call "a" [("action", .str "set"), ("key", .str "ΟΔΟΣ"), ("value", .str "Ship It")],
    call "b" [("action", .str "set"), ("key", .str "plan"), ("value", .str "ship nothing")],
    call "a" [("action", .str "search"), ("query", .str "οδος")],
    call "a" [("action", .str "search"), ("query", .str "sHIP")],
    call "b" [("action", .str "search"), ("query", .str "SHIP")],
    call "b" [("action", .str "search"), ("query", .str "ΟΔΟΣ")]]
where
  call (agent : String) (fields : List (String × Json)) : Call :=
    ⟨⟨none, agent⟩, .obj fields, ⟨"none", fun _ _ => throw .emptyProgram⟩, .default⟩

end MemoryTool

end Turnstile
