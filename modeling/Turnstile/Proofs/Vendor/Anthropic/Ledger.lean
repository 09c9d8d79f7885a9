import Turnstile.Proofs.Tool.Assembly
import Turnstile.Proofs.Vendor.Anthropic.Events
import Mathlib.Data.List.Nodup
import Mathlib.Tactic.Choose
/-!
# The ledger of calls — every emitted call and the line that opened it

Each call is booked with the line that opened its slot and the line it was
emitted for. `Books` is what holds of the lines so far: every entry is
borne out by them, every open slot is due to be booked, and where no slot
is open no announcement stands. Every kind of line keeps the books
(`Books.skip`, `Books.start`, `Books.append`, `Books.stop`), and when all
slots are closed everything due is booked (`Books.flush`).

A slot is opened by an announcement, or by a *stray* fragment, one that
comes where no announcement stands; the call then has neither id nor name.
-/

namespace Turnstile

namespace Anthropic

/-! ## What lines carry -/

variable {es more : List (Option Event)} {i j index : Nat}

/-- The line of a number carries an event. -/
def Carries (es : List (Option Event)) (i : Nat) (e : Event) : Prop := es[i]? = some (some e)

/-- A line announces a call at an index. -/
def Starts (es : List (Option Event)) (i index : Nat) (id name : String) : Prop :=
  ∃ input, Carries es i (.blockStart index (.toolUse id name input))

/-- A line stops the block at an index. -/
def Stops (es : List (Option Event)) (i index : Nat) : Prop := Carries es i (.blockStop index)

/-- A line adds argument text at an index. -/
def Adds (es : List (Option Event)) (i index : Nat) : Prop :=
  ∃ fragment, Carries es i (.blockDelta index (.inputJson fragment))

/-- Before line `j` a call was announced at the index, and its block has
not been stopped since. -/
def Standing (es : List (Option Event)) (index j : Nat) : Prop :=
  ∃ i id name, i < j ∧ Starts es i index id name ∧ ∀ m, i < m → m < j → ¬ Stops es m index

/-- Argument text that comes where no announcement stands. -/
def Stray (es : List (Option Event)) (i index : Nat) : Prop :=
  Adds es i index ∧ ¬ Standing es index i

/-- Between two lines the index is neither announced nor stopped. -/
def Untouched (es : List (Option Event)) (index i j : Nat) : Prop :=
  ∀ m, i < m → m < j → ¬ Stops es m index ∧ ∀ id name, ¬ Starts es m index id name

theorem carries_append {e : Event} (hi : i < es.length) :
    Carries (es ++ more) i e ↔ Carries es i e := by
  rw [Carries, List.getElem?_append_left hi, Carries]

theorem carries_length {x : Option Event} {e : Event} :
    Carries (es ++ x :: more) es.length e ↔ x = some e := by
  rw [Carries, List.getElem?_append_right (Nat.le_refl _), Nat.sub_self]
  exact Option.some_inj

theorem Carries.inj {e e' : Event} (h : Carries es i e) (h' : Carries es i e') : e = e' :=
  Option.some.inj (Option.some.inj (h.symm.trans h'))

theorem starts_append {id name : String} (hi : i < es.length) :
    Starts (es ++ more) i index id name ↔ Starts es i index id name :=
  exists_congr fun _ => carries_append hi

theorem stops_append (hi : i < es.length) : Stops (es ++ more) i index ↔ Stops es i index :=
  carries_append hi

theorem standing_append (hj : j ≤ es.length) :
    Standing (es ++ more) index j ↔ Standing es index j :=
  exists₃_congr fun _ _ _ => and_congr_right fun _ => and_congr (starts_append (by omega)) <|
    forall₃_congr fun _ _ _ => not_congr (stops_append (by omega))

theorem stray_append (hi : i < es.length) : Stray (es ++ more) i index ↔ Stray es i index :=
  and_congr (exists_congr fun _ => carries_append hi)
    (not_congr (standing_append (Nat.le_of_lt hi)))

theorem untouched_append (hj : j ≤ es.length) :
    Untouched (es ++ more) index i j ↔ Untouched es index i j :=
  forall₃_congr fun _ _ _ => and_congr (not_congr (stops_append (by omega))) <|
    forall₂_congr fun _ _ => not_congr (starts_append (by omega))

/-! ## Entries -/

/-- What opens a slot of an id and a name: an announcement of just these,
or a stray fragment, and then there are none. -/
def Opens (es : List (Option Event)) (i index : Nat) (id name : String) : Prop :=
  Starts es i index id name ∨ (id = "" ∧ name = "" ∧ Stray es i index)

/-- A line opens a slot at one index only. -/
theorem Opens.index_eq {index' : Nat} {id name id' name' : String}
    (h : Opens es i index id name) (h' : Opens es i index' id' name') : index = index' := by
  rcases h with ⟨_, h⟩ | ⟨-, -, ⟨_, h⟩, -⟩ <;> rcases h' with ⟨_, h'⟩ | ⟨-, -, ⟨_, h'⟩, -⟩ <;>
    cases h.inj h' <;> rfl

theorem opens_append {id name : String} (hi : i < es.length) :
    Opens (es ++ more) i index id name ↔ Opens es i index id name :=
  or_congr (starts_append hi) (and_congr_right fun _ => and_congr_right fun _ => stray_append hi)

/-- A call, the index of its slot, and the lines the slot was opened by
and the call emitted for. -/
structure Entry where
  opened : Nat
  closed : Nat
  index : Nat
  call : ToolCall

/-- The call with the number of the line it is emitted for. -/
def Entry.numbered (e : Entry) : Nat × ToolCall := (e.closed, e.call)

/-- An entry that the lines bear out. -/
structure Entry.Sound (es : List (Option Event)) (e : Entry) : Prop where
  order : e.opened < e.closed
  opens : Opens es e.opened e.index e.call.id e.call.name
  /-- In between the slot was not closed, nor opened anew. -/
  untouched : Untouched es e.index e.opened e.closed
  /-- If a block was stopped when the call was emitted, it was its own. -/
  stops : ∀ index, Stops es e.closed index → index = e.index

/-- More lines bear an entry out that was emitted before them. -/
theorem Entry.Sound.append {e : Entry} (h : e.Sound es) (hclosed : e.closed < es.length)
    (more : List (Option Event)) : e.Sound (es ++ more) where
  order := h.order
  opens := (opens_append (Nat.lt_trans h.order hclosed)).mpr h.opens
  untouched := (untouched_append (Nat.le_of_lt hclosed)).mpr h.untouched
  stops index hs := h.stops index ((stops_append hclosed).mp hs)

/-! ## The books -/

/-- An open slot's call is still to be booked: the line that opened it, and
no entry of its index since. -/
structure Due (es : List (Option Event)) (ledger : List Entry) (index : Nat) (id name : String)
    (i : Nat) : Prop where
  before : i < es.length
  opens : Opens es i index id name
  untouched : Untouched es index i es.length
  fresh : ∀ e ∈ ledger, e.index = index → e.closed < i

/-- The books of lines so far, with these slots open. -/
structure Books (es : List (Option Event)) (calls : Assembly) (ledger : List Entry) : Prop where
  ordered : calls.Ordered
  sound : ∀ e ∈ ledger, e.Sound es
  past : ∀ e ∈ ledger, e.closed < es.length
  once : (ledger.map (·.opened)).Nodup
  due : ∀ index slot, calls.get? index = some slot → ∃ i, Due es ledger index slot.id slot.name i
  free : ∀ index, calls.get? index = none → ¬ Standing es index es.length

variable {calls : Assembly} {ledger : List Entry}

/-- Nothing is booked of no lines. -/
theorem books_nil : Books [] .empty [] where
  ordered := Assembly.ordered_empty
  sound _ h := nomatch h
  past _ h := nomatch h
  once := List.nodup_nil
  due _ _ h := nomatch h
  free _ _ := fun ⟨_, _, _, hi, _⟩ => absurd hi (Nat.not_lt_zero _)

/-- What is due is booked soundly when its call is emitted for the next
line, or at the end, unless that stops another block. -/
theorem Due.sound {call : ToolCall} (h : Due es ledger index call.id call.name i)
    (more : List (Option Event)) (hstops : ∀ k, Stops (es ++ more) es.length k → k = index) :
    Entry.Sound (es ++ more) ⟨i, es.length, index, call⟩ where
  order := h.before
  opens := (opens_append h.before).mpr h.opens
  untouched := (untouched_append (Nat.le_refl _)).mpr h.untouched
  stops := hstops

/-- No entry was opened by the line that opened what is due. -/
theorem Books.opened_ne (h : Books es calls ledger) {id name : String}
    (hdue : Due es ledger index id name i) : ∀ e ∈ ledger, e.opened ≠ i := by
  intro e he heq
  have hsound := h.sound e he
  have hindex : e.index = index := (heq ▸ hsound.opens).index_eq hdue.opens
  have := hdue.fresh e he hindex
  have := hsound.order
  omega

/-- A line that touches an index: it announces a call there or stops the
block. -/
def Touches (x : Option Event) (index : Nat) : Prop :=
  x = some (.blockStop index) ∨
    ∃ id name input, x = some (.blockStart index (.toolUse id name input))

/-- A line that does not touch an index leaves alone what was untouched. -/
theorem Untouched.concat {x : Option Event} (h : Untouched es index i es.length)
    (hx : ¬ Touches x index) : Untouched (es ++ [x]) index i (es ++ [x]).length := by
  intro m hm hmj
  rw [List.length_append, List.length_singleton] at hmj
  rcases Nat.lt_succ_iff_lt_or_eq.mp hmj with hlt | rfl
  · exact (untouched_append (Nat.le_refl _)).mpr h m hm hlt
  · refine ⟨fun hs => hx (Or.inl (carries_length.mp hs)), fun id name hs => ?_⟩
    obtain ⟨input, hs⟩ := hs
    exact hx (Or.inr ⟨id, name, input, carries_length.mp hs⟩)

/-- Nor does it make an announcement stand. -/
theorem Standing.of_concat {x : Option Event} (hx : ¬ Touches x index)
    (h : Standing (es ++ [x]) index (es ++ [x]).length) : Standing es index es.length := by
  obtain ⟨i, id, name, hi, hstarts, hstops⟩ := h
  rw [List.length_append, List.length_singleton] at hi hstops
  rcases Nat.lt_succ_iff_lt_or_eq.mp hi with hlt | rfl
  · refine ⟨i, id, name, hlt, (starts_append hlt).mp hstarts, fun m hm hmj hs => ?_⟩
    exact hstops m hm (by omega) ((stops_append hmj).mpr hs)
  · obtain ⟨input, hs⟩ := hstarts
    exact absurd (Or.inr ⟨id, name, input, carries_length.mp hs⟩) hx

theorem Due.concat {x : Option Event} {id name : String} (h : Due es ledger index id name i)
    (hx : ¬ Touches x index) {ledger' : List Entry}
    (hledger : ∀ e ∈ ledger', e.index = index → e ∈ ledger) :
    Due (es ++ [x]) ledger' index id name i where
  before := Nat.lt_of_lt_of_le h.before (by simp)
  opens := (opens_append h.before).mpr h.opens
  untouched := h.untouched.concat hx
  fresh e he hindex := h.fresh e (hledger e he hindex) hindex

/-- **A line keeps the books** that touches one index at the most and
leaves the slots at all others as they are, if it keeps them at its own
and what it adds to the ledger is booked there. -/
theorem Books.concat (h : Books es calls ledger) {x : Option Event} {calls' : Assembly}
    {ledger' : List Entry} (index : Nat) (hordered : calls'.Ordered)
    (hother : ∀ k, k ≠ index → ¬ Touches x k ∧ calls'.get? k = calls.get? k)
    (hentries : ∀ e ∈ ledger',
      e ∈ ledger ∨ e.index = index ∧ e.closed = es.length ∧ e.Sound (es ++ [x]))
    (honce : (ledger'.map (·.opened)).Nodup)
    (hdue : ∀ slot, calls'.get? index = some slot →
      ∃ i, Due (es ++ [x]) ledger' index slot.id slot.name i)
    (hfree : calls'.get? index = none → ¬ Standing (es ++ [x]) index (es ++ [x]).length) :
    Books (es ++ [x]) calls' ledger' where
  ordered := hordered
  sound e he := by
    rcases hentries e he with he | ⟨-, -, hsound⟩
    · exact (h.sound e he).append (h.past e he) [x]
    · exact hsound
  past e he := by
    rw [List.length_append, List.length_singleton]
    rcases hentries e he with he | ⟨-, hclosed, -⟩
    · exact Nat.lt_succ_of_lt (h.past e he)
    · rw [hclosed]
      exact Nat.lt_succ_self _
  once := honce
  due k slot hk := by
    by_cases hindex : k = index
    · subst hindex
      exact hdue slot hk
    · obtain ⟨hx, hget⟩ := hother k hindex
      rw [hget] at hk
      obtain ⟨i, hi⟩ := h.due k slot hk
      refine ⟨i, hi.concat hx fun e he heq => ?_⟩
      exact (hentries e he).resolve_right fun hnew => hindex (heq.symm.trans hnew.1)
  free k hk := by
    by_cases hindex : k = index
    · subst hindex
      exact hfree hk
    · obtain ⟨hx, hget⟩ := hother k hindex
      rw [hget] at hk
      exact fun hs => h.free k hk (hs.of_concat hx)

/-! ## One line -/

/-- A slot that the next line opens is due from it on. -/
theorem Books.due_length (h : Books es calls ledger) {x : Option Event} {id name : String}
    (hopens : Opens (es ++ [x]) es.length index id name) :
    Due (es ++ [x]) ledger index id name es.length where
  before := by simp
  opens := hopens
  untouched m hm hmj := by
    rw [List.length_append, List.length_singleton] at hmj
    omega
  fresh e he _ := h.past e he

/-- What is due stays due over a line that does not touch its index. -/
theorem Books.due_concat (h : Books es calls ledger) {x : Option Event} {slot : CallSlot}
    (hslot : calls.get? index = some slot) (hx : ¬ Touches x index) :
    ∃ i, Due (es ++ [x]) ledger index slot.id slot.name i := by
  obtain ⟨i, hi⟩ := h.due index slot hslot
  exact ⟨i, hi.concat hx fun _ he _ => he⟩

/-- A line that touches nothing and changes no slot. -/
theorem Books.skip (h : Books es calls ledger) {x : Option Event} (hx : ∀ k, ¬ Touches x k) :
    Books (es ++ [x]) calls ledger :=
  h.concat 0 h.ordered (fun k _ => ⟨hx k, rfl⟩) (fun _ he => Or.inl he) h.once
    (fun _ hslot => h.due_concat hslot (hx 0))
    (fun hnone hs => h.free 0 hnone (hs.of_concat (hx 0)))

/-- An announcement opens its slot, or opens it anew. -/
theorem Books.start (h : Books es calls ledger) (index : Nat) (id name : String) (input : Json) :
    Books (es ++ [some (.blockStart index (.toolUse id name input))])
      (calls.start index id name) ledger := by
  refine h.concat index (h.ordered.set ..) (fun k hk => ⟨?_, ?_⟩) (fun _ he => Or.inl he) h.once
    (fun slot hslot => ?_) (fun hnone => ?_)
  · rintro (hx | ⟨_, _, _, hx⟩)
    · cases hx
    · cases hx
      exact hk rfl
  · rw [Assembly.get?_start, if_neg (Ne.symm hk)]
  · rw [Assembly.get?_start, if_pos rfl, Option.some.injEq] at hslot
    subst hslot
    exact ⟨_, h.due_length (Or.inl ⟨input, carries_length.mpr rfl⟩)⟩
  · rw [Assembly.get?_start, if_pos rfl] at hnone
    cases hnone

/-- A fragment fills the slot an announcement opened; where no slot is
open it is stray and opens one without id and name. -/
theorem Books.append (h : Books es calls ledger) (index : Nat) (fragment : String) :
    Books (es ++ [some (.blockDelta index (.inputJson fragment))])
      (calls.append index fragment) ledger := by
  have hx (k : Nat) : ¬ Touches (some (.blockDelta index (.inputJson fragment))) k := by
    rintro (hx | ⟨_, _, _, hx⟩) <;> cases hx
  refine h.concat index (h.ordered.set ..) (fun k hk => ⟨hx k, ?_⟩) (fun _ he => Or.inl he) h.once
    (fun slot hslot => ?_) (fun hnone => ?_)
  · rw [Assembly.get?_append, if_neg (Ne.symm hk)]
  · rw [Assembly.get?_append, if_pos rfl, Option.some.injEq] at hslot
    subst hslot
    cases hopen : calls.get? index with
    | some slot =>
      obtain ⟨i, hi⟩ := h.due_concat hopen (hx index)
      exact ⟨i, hi⟩
    | none =>
      refine ⟨_, h.due_length (Or.inr ⟨rfl, rfl, ⟨fragment, carries_length.mpr rfl⟩, ?_⟩)⟩
      rw [standing_append (Nat.le_refl _)]
      exact h.free index hopen
  · rw [Assembly.get?_append, if_pos rfl] at hnone
    cases hnone

/-- What is due may be booked, each once. -/
theorem Books.nodup_append (h : Books es calls ledger) {entries : List Entry}
    (hdue : ∀ e ∈ entries, Due es ledger e.index e.call.id e.call.name e.opened)
    (hnodup : (entries.map (·.opened)).Nodup) :
    ((ledger ++ entries).map (·.opened)).Nodup := by
  rw [List.map_append]
  refine List.Nodup.append h.once hnodup fun i hold hnew => ?_
  obtain ⟨e, he, rfl⟩ := List.mem_map.mp hold
  obtain ⟨e', he', heq⟩ := List.mem_map.mp hnew
  exact h.opened_ne (hdue e' he') e he heq.symm

/-- The stop of a block closes its slot, and the call is booked. -/
theorem Books.stop (h : Books es calls ledger) (index : Nat) :
    ∃ entries, (calls.finish index).2.toList.map (es.length, ·) = entries.map Entry.numbered ∧
      Books (es ++ [some (.blockStop index)]) (calls.finish index).1 (ledger ++ entries) := by
  have hother (k : Nat) (hk : k ≠ index) : ¬ Touches (some (.blockStop index)) k ∧
      (calls.finish index).1.get? k = calls.get? k := by
    refine ⟨?_, by rw [Assembly.get?_finish, if_neg (Ne.symm hk)]⟩
    rintro (hx | ⟨_, _, _, hx⟩)
    · cases hx
      exact hk rfl
    · cases hx
  have hdue (slot : CallSlot) (hslot : (calls.finish index).1.get? index = some slot) :
      False := by
    rw [Assembly.get?_finish, if_pos rfl] at hslot
    cases hslot
  -- the stop itself is after any announcement there was
  have hfree : ¬ Standing (es ++ [some (.blockStop index)]) index
      (es ++ [some (Event.blockStop index)]).length := by
    rintro ⟨i, id, name, hi, ⟨input, hstarts⟩, hstops⟩
    rw [List.length_append, List.length_singleton] at hi hstops
    have hstop : Stops (es ++ [some (.blockStop index)]) es.length index := carries_length.mpr rfl
    rcases Nat.lt_succ_iff_lt_or_eq.mp hi with hlt | rfl
    · exact hstops es.length hlt (Nat.lt_succ_self _) hstop
    · cases hstop.inj hstarts
  cases hopen : calls.get? index with
  | none =>
    refine ⟨[], by rw [Assembly.finish, hopen]; rfl, ?_⟩
    rw [List.append_nil]
    exact h.concat index (h.ordered.finish index) hother (fun _ he => Or.inl he) h.once
      (fun slot hslot => (hdue slot hslot).elim) (fun _ => hfree)
  | some slot =>
    obtain ⟨i, hi⟩ := h.due index slot hopen
    refine ⟨[⟨i, es.length, index, slot.call⟩], by rw [Assembly.finish, hopen]; rfl, ?_⟩
    refine h.concat index (h.ordered.finish index) hother (fun e he => ?_)
      (h.nodup_append (fun e he => ?_) (List.nodup_singleton _))
      (fun slot hslot => (hdue slot hslot).elim) (fun _ => hfree)
    · refine (List.mem_append.mp he).imp_right fun he => ?_
      rw [List.mem_singleton.mp he]
      refine ⟨rfl, rfl, hi.sound _ fun k hk => ?_⟩
      cases hk.inj (carries_length.mpr rfl)
      rfl
    · rw [List.mem_singleton.mp he]
      exact hi

/-- **Closing all slots books what is due**, at a line that stops no block
or at the end. -/
theorem Books.flush (h : Books es calls ledger) :
    ∃ entries, (calls.finishAll.2.map (es.length, ·)) = entries.map Entry.numbered ∧
      ((ledger ++ entries).map (·.opened)).Nodup ∧
      ∀ more, (∀ k, ¬ Stops (es ++ more) es.length k) → ∀ e ∈ entries, e.Sound (es ++ more) := by
  choose! origin horigin using h.due
  have hslot (p : Nat × CallSlot) (hp : p ∈ calls.slots) :
      Due es ledger p.1 p.2.id p.2.name (origin p.1 p.2) :=
    horigin p.1 p.2 (h.ordered.mem_slots.mp hp)
  refine ⟨calls.slots.map fun p => ⟨origin p.1 p.2, es.length, p.1, p.2.call⟩, ?_,
    h.nodup_append (fun e he => ?_) ?_, fun more hstops e he => ?_⟩
  · rw [Assembly.finishAll, List.map_map, List.map_map]
    rfl
  · obtain ⟨p, hp, rfl⟩ := List.mem_map.mp he
    exact hslot p hp
  · -- two slots opened by one line are at one index, and so the same
    rw [List.map_map]
    refine List.Nodup.map_on (fun p hp q hq heq => ?_) (Keyed.Sorted.nodup h.ordered)
    have hopens := (hslot p hp).opens
    rw [show origin p.1 p.2 = origin q.1 q.2 from heq] at hopens
    have hindex := hopens.index_eq (hslot q hq).opens
    refine Prod.ext hindex (Option.some.inj ?_)
    rw [← h.ordered.mem_slots.mp hp, hindex, h.ordered.mem_slots.mp hq]
  · obtain ⟨p, hp, rfl⟩ := List.mem_map.mp he
    exact (hslot p hp).sound more fun k hk => absurd hk (hstops k)

end Anthropic

end Turnstile
