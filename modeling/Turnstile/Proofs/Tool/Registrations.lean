import Turnstile.Proofs.Keyed
import Turnstile.Proofs.Service
import Turnstile.Proofs.Tool.Servers
import Mathlib.Data.List.Sort
import Mathlib.Data.String.Basic
/-!
# Registrations — a registry in use by many clients

Clients register tools, take them away, look them up and list them, each
whenever it likes; the registry carries out one operation at a time. A
tool may say it is one thing at one moment and another at the next, so
what stands under a name is a tool and what it said when it was
registered. Which that is, is told by what was done to the name
(`standing`): the last that was registered there, unless its name was
taken away since. That tells the answer to every operation (`Owed`), and
what is seen of one name is the same whatever is done to the others
(`inUse`).
-/

namespace Turnstile

namespace Registry

variable {ι : Type}

/-! ## Operations -/

/-- One operation on a registry. -/
inductive Operation
  /-- The tool is asked at that moment what it is. -/
  | register (tool : Tool) (asked : Moment)
  | unregister (name : String)
  | get (name : String)
  | definitions
  | names
  | size

/-- What an operation is answered. -/
inductive Answer
  /-- The tool that was there. -/
  | displaced (previous : Option Tool)
  | found (result : Except ToolError Tool)
  | definitions (definitions : List ToolDefinition)
  | names (names : List String)
  | size (size : Nat)

/-- Carry out an operation for a client. -/
def serve (r : Registry) (request : ι × Operation) : Answer × Registry :=
  match request.2 with
  | .register tool asked => (.displaced (r.register tool asked).1, (r.register tool asked).2)
  | .unregister name => (.displaced (r.unregister name).1, (r.unregister name).2)
  | .get name => (.found (r.get name), r)
  | .definitions => (.definitions r.definitions, r)
  | .names => (.names r.names, r)
  | .size => (.size r.size, r)

namespace Operation

/-- The name that an operation writes to. -/
def target? : Operation → Option String
  | .register tool asked => some (tool.definition asked).name
  | .unregister name => some name
  | _ => none

/-- What an operation puts there: the tool, and what it said it was. -/
def puts? : Operation → Option Entry
  | .register tool asked => some ⟨tool.definition asked, tool⟩
  | _ => none

/-- The operation writes to a name or tells what is there. The size tells
of no name. -/
def concerns (name : String) : Operation → Bool
  | .register tool asked => (tool.definition asked).name = name
  | .unregister other => other = name
  | .get other => other = name
  | .definitions => true
  | .names => true
  | .size => false

end Operation

/-- As much of an answer as is about a name. -/
def Answer.about (name : String) : Answer → Answer
  | .definitions listed => .definitions (listed.filter (·.name = name))
  | .names listed => .names (listed.filter (· = name))
  | answer => answer

/-! ## What stands under a name -/

/-- What a request writes under a name, if it writes there. -/
def writes (name : String) (request : ι × Operation) : Option (Option Entry) :=
  if request.2.target? = some name then some request.2.puts? else none

/-- What stands under a name after some requests. -/
def standing (name : String) (history : List (ι × Operation)) : Option Entry :=
  Service.lastWrite (writes name) history

theorem writes_eq_put_iff {name : String} {request : ι × Operation} {entry : Entry} :
    writes name request = some (some entry) ↔
      ∃ tool asked, request.2 = .register tool asked ∧ entry = ⟨tool.definition asked, tool⟩ ∧
        entry.definition.name = name := by
  obtain ⟨client, operation⟩ := request
  by_cases h : operation.target? = some name
  · rw [writes, if_pos h]
    cases operation with
    | register tool asked =>
      constructor
      · intro hput
        obtain rfl : ⟨tool.definition asked, tool⟩ = entry := by simpa [Operation.puts?] using hput
        exact ⟨tool, asked, rfl, rfl, Option.some.inj h⟩
      · rintro ⟨_, _, hput, rfl, -⟩
        cases hput
        rfl
    | _ => simp [Operation.puts?]
  · rw [writes, if_neg h]
    constructor
    · intro hput
      cases hput
    · rintro ⟨tool, asked, hput, rfl, rfl⟩
      change operation = .register tool asked at hput
      exact absurd (by rw [hput, Operation.target?]) h

theorem writes_eq_none_iff {name : String} {request : ι × Operation} :
    writes name request = none ↔ request.2.target? ≠ some name := by
  rw [writes]
  split <;> simp_all

/-- **A tool stands under a name** exactly if it was registered there, and
nothing was registered there or taken away after that; with it stands what
it said it was when it was registered. -/
theorem standing_eq_some_iff {name : String} {history : List (ι × Operation)} {entry : Entry} :
    standing name history = some entry ↔
      ∃ before client tool asked later, history = before ++ (client, .register tool asked) :: later ∧
        entry = ⟨tool.definition asked, tool⟩ ∧ entry.definition.name = name ∧
        ∀ other ∈ later, other.2.target? ≠ some name := by
  rw [standing, Service.lastWrite_eq_some_iff]
  constructor
  · rintro ⟨before, ⟨client, operation⟩, later, hsplit, hput, hlater⟩
    obtain ⟨tool, asked, hregister, hentry, hname⟩ := writes_eq_put_iff.mp hput
    change operation = .register tool asked at hregister
    subst hregister
    exact ⟨before, client, tool, asked, later, hsplit, hentry, hname,
      fun other hother => writes_eq_none_iff.mp (hlater other hother)⟩
  · rintro ⟨before, client, tool, asked, later, hsplit, hentry, hname, hlater⟩
    exact ⟨before, (client, .register tool asked), later, hsplit,
      writes_eq_put_iff.mpr ⟨tool, asked, rfl, hentry, hname⟩,
      fun other hother => writes_eq_none_iff.mpr (hlater other hother)⟩

/-- **One operation writes** what it puts under the name it writes to, and
leaves what is under the others. -/
theorem entry?_serve (r : Registry) (request : ι × Operation) (name : String) :
    Registry.entry? (r.serve request).2 name = (writes name request).getD (r.entry? name) := by
  obtain ⟨client, operation⟩ := request
  cases operation with
  | register tool asked =>
    change Registry.entry? (r.register tool asked).2 name = _
    rw [entry?_register]
    by_cases h : (tool.definition asked).name = name
    · have hput : writes name (client, .register tool asked) =
          some (some ⟨tool.definition asked, tool⟩) :=
        if_pos (congrArg some h)
      rw [if_pos h, hput, Option.getD_some]
    · have hleft : writes name (client, .register tool asked) = none :=
        if_neg fun heq => h (Option.some.inj heq)
      rw [if_neg h, hleft, Option.getD_none]
  | unregister other =>
    change Keyed.find? name (Keyed.erase other r.entries) = _
    rw [Keyed.find?_erase]
    by_cases h : other = name
    · have htaken : writes name (client, .unregister other) = some none :=
        if_pos (congrArg some h)
      rw [if_pos h, htaken, Option.getD_some]
    · have hleft : writes name (client, .unregister other) = none :=
        if_neg fun heq => h (Option.some.inj heq)
      rw [if_neg h, hleft, Option.getD_none]
      rfl
  | _ => rfl

/-- **What is kept under a name is what stands there.** -/
theorem entry?_after (history : List (ι × Operation)) (name : String) :
    Registry.entry? (Service.after serve empty history) name = standing name history :=
  Service.view_after serve (fun r => r.entry? name) (writes name)
    (fun r request => entry?_serve r request name) rfl history

theorem find?_after (history : List (ι × Operation)) (name : String) :
    (Service.after serve empty history).find? name = (standing name history).map (·.tool) := by
  rw [find?, entry?_after]

/-! ## Listings -/

/-- What is kept is in order of name, each tool under the name it had when
it was registered. -/
structure Kept (r : Registry) : Prop where
  ordered : Keyed.Sorted r.entries
  named : ∀ entry ∈ r.entries, entry.2.definition.name = entry.1

theorem kept_empty : Kept empty := ⟨Keyed.sorted_nil, fun _ h => by cases h⟩

theorem Kept.serve {r : Registry} (h : Kept r) (request : ι × Operation) :
    Kept (r.serve request).2 := by
  obtain ⟨client, operation⟩ := request
  cases operation with
  | register tool asked =>
    refine ⟨h.ordered.insert _ _, fun entry hentry => ?_⟩
    rcases Keyed.mem_insert hentry with rfl | hentry
    · rfl
    · exact h.named entry hentry
  | unregister name =>
    refine ⟨h.ordered.erase name, fun entry hentry => ?_⟩
    exact h.named entry (List.mem_of_mem_filter hentry)
  | _ => exact h

theorem kept_after (history : List (ι × Operation)) : Kept (Service.after serve empty history) :=
  Service.invariant_after serve Kept (fun _ request h => h.serve request) kept_empty history

/-- The order of name. -/
def byName (d d' : ToolDefinition) : Bool := decide (d.name ≤ d'.name)

/-- A listing of what stands after some requests: in strictly increasing
order of name, and of every name what the tool that stands there said it
was when it was registered, once. In whatever order the definitions are
come by, the listing is what sorting them by name gives. -/
structure Listing (history : List (ι × Operation)) (definitions : List ToolDefinition) : Prop where
  increasing : definitions.Pairwise fun d d' => d.name < d'.name
  entries : ∀ name, definitions.filter (·.name = name) =
    ((standing name history).map (·.definition)).toList
  sorted : ∀ found : List ToolDefinition, found.Perm definitions →
    found.mergeSort byName = definitions

variable {r : Registry}

theorem Kept.names_eq (h : Kept r) : r.names = r.definitions.map (·.name) := by
  rw [names, definitions, List.map_map]
  exact List.map_congr_left fun entry hentry => (h.named entry hentry).symm

theorem Kept.size_eq (r : Registry) : r.size = r.definitions.length := by
  rw [size, definitions, List.length_map]

/-- The definitions of a name are what is found under it. -/
theorem Kept.filter_definitions (h : Kept r) (name : String) :
    r.definitions.filter (·.name = name) = ((r.entry? name).map (·.definition)).toList := by
  have hkey : r.entries.filter (fun entry => decide (entry.2.definition.name = name)) =
      r.entries.filter fun entry => decide (entry.1 = name) :=
    List.filter_congr fun entry hentry => by rw [h.named entry hentry]
  have hfound := congrArg (List.map Entry.definition) (h.ordered.map_filter_key name)
  rw [← hkey, List.map_map] at hfound
  rw [definitions, List.filter_map]
  refine Eq.trans hfound ?_
  change List.map _ (r.entry? name).toList = _
  rcases r.entry? name with _ | entry <;> rfl

/-- And so are the names. -/
theorem Kept.filter_names (h : Kept r) (name : String) :
    r.names.filter (· = name) = ((r.entry? name).map (·.definition.name)).toList := by
  have hfilter := congrArg (List.map ToolDefinition.name) (h.filter_definitions name)
  rw [h.names_eq, List.filter_map]
  refine Eq.trans hfilter ?_
  rcases r.entry? name with _ | entry <;> rfl

theorem Kept.increasing (h : Kept r) : r.definitions.Pairwise fun d d' => d.name < d'.name := by
  rw [definitions, List.pairwise_map]
  refine List.Pairwise.imp_of_mem ?_ h.ordered
  intro entry entry' hentry hentry' hlt
  rw [h.named entry hentry, h.named entry' hentry']
  exact hlt

/-- Definitions in strictly increasing order of name are what sorting them
by name gives. -/
theorem mergeSort_eq_of_increasing {definitions found : List ToolDefinition}
    (h : definitions.Pairwise fun d d' => d.name < d'.name) (hfound : found.Perm definitions) :
    found.mergeSort byName = definitions := by
  have hsorted : (found.mergeSort byName).Pairwise fun d d' => byName d d' = true := by
    refine List.pairwise_mergeSort (fun a b c hab hbc => ?_) (fun a b => ?_) found
    · exact decide_eq_true (le_trans (of_decide_eq_true hab) (of_decide_eq_true hbc))
    · simpa [byName] using le_total a.name b.name
  have hperm : (found.mergeSort byName).Perm definitions :=
    (List.mergeSort_perm found byName).trans hfound
  have hnodup : (definitions.map (·.name)).Nodup :=
    (List.pairwise_map.mpr h).imp fun hlt => hlt.ne
  refine hperm.eq_of_pairwise (fun d d' hmem hmem' hle hge => ?_) hsorted
    (h.imp fun hlt => decide_eq_true hlt.le)
  have hname : d.name = d'.name := le_antisymm (of_decide_eq_true hle) (of_decide_eq_true hge)
  exact List.inj_on_of_nodup_map hnodup (hperm.mem_iff.mp hmem) hmem' hname

theorem listing_after (history : List (ι × Operation)) :
    Listing history (Service.after serve empty history).definitions where
  increasing := (kept_after history).increasing
  entries name := by rw [(kept_after history).filter_definitions, entry?_after]
  sorted found hfound := mergeSort_eq_of_increasing (kept_after history).increasing hfound

/-! ## Answers -/

/-- What a look-up of a name gives where this is what stands there. -/
def lookedUp (name : String) : Option Tool → Except ToolError Tool
  | some tool => .ok tool
  | none => .error (.notFound name)

theorem get_eq (r : Registry) (name : String) : r.get name = lookedUp name (r.find? name) := by
  rw [get]
  rcases r.find? name with _ | tool <;> rfl

/-- What an operation is to be answered after some requests. -/
def Owed (before : List (ι × Operation)) : Operation → Answer → Prop
  | .register tool asked, .displaced previous =>
    previous = (standing (tool.definition asked).name before).map (·.tool)
  | .unregister name, .displaced previous => previous = (standing name before).map (·.tool)
  | .get name, .found result => result = lookedUp name ((standing name before).map (·.tool))
  | .definitions, .definitions listed => Listing before listed
  | .names, .names names => ∃ listed, Listing before listed ∧ names = listed.map (·.name)
  | .size, .size size => ∃ listed, Listing before listed ∧ size = listed.length
  | _, _ => False

/-- **An operation is answered what it is owed.** -/
theorem owed_serve (before : List (ι × Operation)) (request : ι × Operation) :
    Owed before request.2 ((Service.after serve empty before).serve request).1 := by
  obtain ⟨client, operation⟩ := request
  cases operation with
  | register tool asked => exact find?_after before (tool.definition asked).name
  | unregister name => exact find?_after before name
  | get name =>
    change get _ name = lookedUp name ((standing name before).map (·.tool))
    rw [get_eq, find?_after]
  | definitions => exact listing_after before
  | names => exact ⟨_, listing_after before, (kept_after before).names_eq⟩
  | size => exact ⟨_, listing_after before, Kept.size_eq _⟩

/-! ## One name and the others -/

/-- Two registries are alike as far as a name goes. -/
structure AlikeAt (name : String) (r r' : Registry) : Prop where
  kept : Kept r
  kept' : Kept r'
  same : r.entry? name = r'.entry? name

variable {name : String} {r' : Registry}

theorem AlikeAt.find?_eq (h : AlikeAt name r r') : r.find? name = r'.find? name := by
  rw [find?, find?, h.same]

/-- What does not concern the name leaves them alike. -/
theorem AlikeAt.skip (h : AlikeAt name r r') (request : ι × Operation)
    (hother : request.2.concerns name = false) : AlikeAt name (r.serve request).2 r' := by
  refine ⟨h.kept.serve request, h.kept', ?_⟩
  have hleft : writes name request = none := by
    rw [writes_eq_none_iff]
    obtain ⟨client, operation⟩ := request
    cases operation <;> simp_all [Operation.concerns, Operation.target?]
  rw [entry?_serve, hleft, Option.getD_none, h.same]

/-- What does is answered alike by both, and leaves them alike. -/
theorem AlikeAt.serve (h : AlikeAt name r r') (request : ι × Operation)
    (hconcerns : request.2.concerns name = true) :
    AlikeAt name (r.serve request).2 (r'.serve request).2 ∧
      (r.serve request).1.about name = (r'.serve request).1.about name := by
  refine ⟨⟨h.kept.serve request, h.kept'.serve request, ?_⟩, ?_⟩
  · rw [entry?_serve, entry?_serve, h.same]
  obtain ⟨client, operation⟩ := request
  cases operation with
  | register tool asked =>
    obtain rfl : (tool.definition asked).name = name := of_decide_eq_true hconcerns
    exact congrArg Answer.displaced h.find?_eq
  | unregister other =>
    obtain rfl : other = name := of_decide_eq_true hconcerns
    exact congrArg Answer.displaced h.find?_eq
  | get other =>
    obtain rfl : other = name := of_decide_eq_true hconcerns
    change Answer.found (get r other) = Answer.found (get r' other)
    rw [get_eq, get_eq, h.find?_eq]
  | definitions =>
    change Answer.definitions _ = Answer.definitions _
    rw [h.kept.filter_definitions, h.kept'.filter_definitions, h.same]
  | names =>
    change Answer.names _ = Answer.names _
    rw [h.kept.filter_names, h.kept'.filter_names, h.same]
  | size => cases hconcerns

/-- What the clients of a registry see that starts out empty. -/
structure InUse (history : List (ι × Operation)) : Prop where
  /-- Every operation is answered, and in turn, -/
  answered : (Service.run serve empty history).map (·.1) = history
  /-- with what it is owed after the operations before it. -/
  owed : ∀ i request answer, (Service.run serve empty history)[i]? = some (request, answer) →
    Owed (history.take i) request.2 answer
  /-- There a tool stands under a name exactly if it was registered there,
  and nothing was registered there or taken away after that; with it stands
  what it said it was when it was registered, whatever it says at other
  moments. -/
  stands : ∀ i name entry, standing name (history.take i) = some entry ↔
    ∃ before client tool asked later,
      history.take i = before ++ (client, .register tool asked) :: later ∧
      entry = ⟨tool.definition asked, tool⟩ ∧ entry.definition.name = name ∧
      ∀ other ∈ later, other.2.target? ≠ some name
  /-- What is seen of a name is what is seen of it where nothing is done but
  what concerns that name. -/
  apart : ∀ name,
    ((Service.run serve empty history).filter fun entry => entry.1.2.concerns name).map
        (fun entry => (entry.1, entry.2.about name)) =
      (Service.run serve empty (history.filter fun request => request.2.concerns name)).map
        fun entry => (entry.1, entry.2.about name)

/-- **A registry in use**, whatever its clients do and in whatever order,
answers by what stands under each name, and no name has to do with
another. -/
theorem inUse (history : List (ι × Operation)) : InUse history where
  answered := Service.map_fst_run serve empty history
  owed i request answer h := by
    rw [Service.answer_of_getElem?_run serve h]
    exact owed_serve (history.take i) request
  stands i name entry := standing_eq_some_iff
  apart name :=
    Service.run_filter serve (AlikeAt name) (fun request => request.2.concerns name)
      (Answer.about name) (fun _ _ request h hother => h.skip request hother)
      (fun _ _ request h hconcerns => h.serve request hconcerns)
      ⟨kept_empty, kept_empty, rfl⟩ history

/-- A tool that tells the moment it is asked. -/
def telling : Tool := ⟨fun now => .plain "time" (toString now), fun _ _ _ _ => pure ""⟩

/-- What it said last when it was registered is listed, not what it says
now, nor what it said before. -/
example :
    (Service.run serve empty [("a", .register telling 3), ("b", .register telling 5),
        ("a", .definitions)]).map (·.2) =
      [.displaced none, .displaced (some telling), .definitions [.plain "time" "5"]] := rfl

end Registry

end Turnstile
