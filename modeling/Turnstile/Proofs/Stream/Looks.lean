import Mathlib.Data.List.ReduceOption
import Turnstile.Proofs.Stream.Chunks
/-!
# Looks — what is fed of a body

Cancellation is looked for before every read and every line, and the looks
at a body are known from the body alone (`looksAt`). The lines fed are
those before the look that sees it, and with all of them fed a failed read
is the next thing (`script_eq`). Of these lines a chunk has completed each
one, wherever something is in the way of the end (`heed_looksAt_isPrefix`,
`reduceOption_looksAt`).
-/

namespace Turnstile

open ChatEvent

namespace Body

/-- The chunks before the first read that is none. -/
def arrived : Body → List Bytes
  | .chunk bytes :: body => bytes :: arrived body
  | _ => []

/-- What there is instead of an end of the body: a read that fails, or one
that waits for its cancellation. -/
def fault? : Body → Option StreamError
  | [] => none
  | .chunk _ :: body => fault? body
  | .failure text :: _ => some (.transport text)
  | .silence :: _ => some .cancelled

/-- The lines that its chunks complete, after these bytes of a line. -/
def completedFrom (held : Bytes) (body : Body) : List String :=
  (LineBuffer.finished (held ++ body.arrived.flatten)).map LineBuffer.decode

/-- The lines that its chunks complete. -/
def completed (body : Body) : List String := body.completedFrom []

/-- A fault is a wait for cancellation or a failed read. -/
theorem fault?_eq_some {body : Body} {cause : StreamError} (h : body.fault? = some cause) :
    cause = .cancelled ∨ ∃ text, cause = .transport text := by
  induction body with
  | nil => cases h
  | cons read body ih =>
    cases read with
    | chunk bytes => exact ih h
    | failure text => exact Or.inr ⟨text, (Option.some.inj h).symm⟩
    | silence => exact Or.inl (Option.some.inj h).symm

/-- A body that has an end is made of its chunks. -/
theorem eq_of_fault? {body : Body} (h : body.fault? = none) :
    body = body.arrived.map .chunk := by
  induction body with
  | nil => rfl
  | cons read body ih =>
    cases read with
    | chunk bytes => exact congrArg (BodyRead.chunk bytes :: ·) (ih h)
    | failure text => cases h
    | silence => cases h

theorem completedFrom_of_arrived_nil {held : Bytes} {body : Body}
    (h : LineBuffer.lineFeed ∉ held) (hnone : body.arrived = []) : body.completedFrom held = [] := by
  rw [completedFrom, hnone, List.flatten_nil, List.append_nil,
    (LineBuffer.pieces_of_not_mem h).1, List.map_nil]

/-- A chunk completes lines, and what it leaves of one is held for the
chunks after it. -/
theorem completedFrom_chunk {buffer : LineBuffer} (h : LineBuffer.lineFeed ∉ buffer.pending)
    (bytes : Bytes) (body : Body) :
    completedFrom buffer.pending (.chunk bytes :: body) =
      (buffer.push bytes).2 ++ body.completedFrom (buffer.push bytes).1.pending := by
  rw [completedFrom, arrived, List.flatten_cons, ← List.append_assoc,
    (LineBuffer.pieces_append _ _).1, List.map_append, LineBuffer.push_eq buffer bytes h]
  rfl

end Body

/-- What a chunk leaves of a line has no line feed in it. -/
theorem LineBuffer.lineFeed_not_mem_push {buffer : LineBuffer} (h : lineFeed ∉ buffer.pending)
    (bytes : Bytes) : lineFeed ∉ (buffer.push bytes).1.pending := by
  rw [push_eq buffer bytes h]
  exact lineFeed_not_mem_unfinished _

namespace Pump

variable {cancelAt : CancelAt}

/-! ## Looks -/

/-- Lines are fed at the looks of these numbers on, up to the first that
sees cancellation; where a look is before a read, there is no line. Tells
also whether one did see it. -/
def heed (cancelAt : CancelAt) (looks : Nat) : List (Option String) → List String × Bool
  | [] => ([], false)
  | x :: xs =>
    if seesCancel cancelAt looks then ([], true)
    else (x.toList ++ (heed cancelAt (looks + 1) xs).1, (heed cancelAt (looks + 1) xs).2)

/-- The looks at a body, given what the buffer holds. -/
def looksAt (buffer : LineBuffer) : Body → List (Option String)
  | [] => none :: buffer.finish.2.toList.map some
  | .chunk bytes :: body =>
    none :: ((buffer.push bytes).2.map some ++ looksAt (buffer.push bytes).1 body)
  | .failure _ :: _ => [none]
  | .silence :: _ => [none]

theorem heed_cons_of_sees {looks : Nat} (h : seesCancel cancelAt looks = true) (x : Option String)
    (xs : List (Option String)) : heed cancelAt looks (x :: xs) = ([], true) := by
  rw [heed, if_pos h]

theorem heed_cons {looks : Nat} (h : ¬ seesCancel cancelAt looks = true) (x : Option String)
    (xs : List (Option String)) :
    heed cancelAt looks (x :: xs) =
      (x.toList ++ (heed cancelAt (looks + 1) xs).1, (heed cancelAt (looks + 1) xs).2) := by
  rw [heed, if_neg h]

/-- The looks after others are heeded unless those saw cancellation. -/
theorem heed_append (looks : Nat) (xs ys : List (Option String)) :
    heed cancelAt looks (xs ++ ys) =
      if (heed cancelAt looks xs).2 then heed cancelAt looks xs
      else ((heed cancelAt looks xs).1 ++ (heed cancelAt (looks + xs.length) ys).1,
        (heed cancelAt (looks + xs.length) ys).2) := by
  induction xs generalizing looks with
  | nil => rfl
  | cons x xs ih =>
    by_cases hsees : seesCancel cancelAt looks = true
    · rw [List.cons_append, heed_cons_of_sees hsees, heed_cons_of_sees hsees]
      rfl
    · have hlooks : looks + 1 + xs.length = looks + (x :: xs).length := by
        rw [List.length_cons]
        omega
      rw [List.cons_append, heed_cons hsees, heed_cons hsees, ih, hlooks]
      simp only
      split <;> simp

/-- Where none sees cancellation, all lines are fed. -/
theorem heed_of_not_seen {looks : Nat} {xs : List (Option String)}
    (h : ¬ (heed cancelAt looks xs).2 = true) : (heed cancelAt looks xs).1 = xs.reduceOption := by
  induction xs generalizing looks with
  | nil => rfl
  | cons x xs ih =>
    by_cases hsees : seesCancel cancelAt looks = true
    · rw [heed_cons_of_sees hsees] at h
      exact absurd rfl h
    · rw [heed_cons hsees] at h ⊢
      rw [ih h]
      cases x <;> rfl

theorem reduceOption_map_some (lines : List String) : (lines.map some).reduceOption = lines := by
  rw [List.reduceOption, List.filterMap_map]
  exact List.filterMap_some

theorem heed_lines_of_not_seen {looks : Nat} {lines : List String}
    (h : ¬ (heed cancelAt looks (lines.map some)).2 = true) :
    (heed cancelAt looks (lines.map some)).1 = lines := by
  rw [heed_of_not_seen h, reduceOption_map_some]

/-- Nobody cancels and none sees it. -/
theorem heed_none (looks : Nat) (xs : List (Option String)) : (heed none looks xs).2 = false := by
  induction xs generalizing looks with
  | nil => rfl
  | cons x xs ih => exact ih (looks + 1)

/-- What is fed of lines is a number of them, in order. -/
theorem heed_lines_isPrefix (looks : Nat) (lines : List String) :
    (heed cancelAt looks (lines.map some)).1 <+: lines := by
  induction lines generalizing looks with
  | nil => exact List.nil_prefix
  | cons line lines ih =>
    by_cases hsees : seesCancel cancelAt looks = true
    · rw [List.map_cons, heed_cons_of_sees hsees]
      exact List.nil_prefix
    · rw [List.map_cons, heed_cons hsees]
      exact (List.prefix_cons_inj line).mpr (ih (looks + 1))

/-! ## What is fed -/

/-- Of a body that a fault ends, the lines looked at are the completed
ones. -/
theorem reduceOption_looksAt {body : Body} (hfault : body.fault? ≠ none) {buffer : LineBuffer}
    (h : LineBuffer.lineFeed ∉ buffer.pending) :
    (looksAt buffer body).reduceOption = body.completedFrom buffer.pending := by
  induction body generalizing buffer with
  | nil => exact absurd rfl hfault
  | cons read body ih =>
    cases read with
    | chunk bytes =>
      rw [looksAt, List.reduceOption_cons_of_none, List.reduceOption_append,
        reduceOption_map_some, ih hfault (LineBuffer.lineFeed_not_mem_push h bytes),
        Body.completedFrom_chunk h]
    | failure text => exact (Body.completedFrom_of_arrived_nil h rfl).symm
    | silence => exact (Body.completedFrom_of_arrived_nil h rfl).symm

/-- **Before a look that sees cancellation** there are completed lines
only: a last line that nothing completed comes at the last look. -/
theorem heed_looksAt_isPrefix {looks : Nat} {body : Body} {buffer : LineBuffer}
    (h : LineBuffer.lineFeed ∉ buffer.pending)
    (hseen : (heed cancelAt looks (looksAt buffer body)).2 = true) :
    (heed cancelAt looks (looksAt buffer body)).1 <+: body.completedFrom buffer.pending := by
  induction body generalizing looks buffer with
  | nil =>
    by_cases hsees : seesCancel cancelAt looks = true
    · rw [looksAt, heed_cons_of_sees hsees]
      exact List.nil_prefix
    · rw [looksAt, heed_cons hsees] at hseen ⊢
      cases hlast : buffer.finish.2 with
      | none =>
        rw [hlast] at hseen
        cases hseen
      | some line =>
        -- the one look after the read sees it, or none does
        rw [hlast] at hseen
        by_cases hlater : seesCancel cancelAt (looks + 1) = true
        · rw [Option.toList_some, List.map_singleton, heed_cons_of_sees hlater]
          exact List.nil_prefix
        · rw [Option.toList_some, List.map_singleton, heed_cons hlater] at hseen
          cases hseen
  | cons read body ih =>
    by_cases hsees : seesCancel cancelAt looks = true
    · have hnothing : (heed cancelAt looks (looksAt buffer (read :: body))).1 = [] := by
        cases read <;> rw [looksAt, heed_cons_of_sees hsees]
      rw [hnothing]
      exact List.nil_prefix
    · cases read with
      | chunk bytes =>
        rw [Body.completedFrom_chunk h]
        rw [looksAt, heed_cons hsees, heed_append] at hseen ⊢
        by_cases hlines : (heed cancelAt (looks + 1) ((buffer.push bytes).2.map some)).2 = true
        · rw [if_pos hlines]
          exact (heed_lines_isPrefix (looks + 1) _).trans (List.prefix_append _ _)
        · -- the lines of the chunk are all fed, and the look is among those after them
          rw [if_neg hlines] at hseen ⊢
          rw [heed_lines_of_not_seen hlines]
          have hrest := ih (LineBuffer.lineFeed_not_mem_push h bytes) hseen
          exact (List.prefix_append_right_inj (buffer.push bytes).2).mpr hrest
      | failure text =>
        rw [looksAt, heed_cons hsees] at hseen
        cases hseen
      | silence =>
        rw [looksAt, heed_cons hsees] at hseen
        cases hseen

/-! ## What is sent -/

variable (n : Normalizer)

/-- The script of lines goes by what is heeded. -/
theorem lineScript_eq (cancelAt : CancelAt) (looks : Nat) (s : n.State) (lines : List String) :
    lineScript n cancelAt looks s lines =
      if (heed cancelAt looks (lines.map some)).2 then
        ((n.feed s (heed cancelAt looks (lines.map some)).1).2.flatten ++ [.error .cancelled], none)
      else ((n.feed s lines).2.flatten, some (n.feed s lines).1) := by
  induction lines generalizing looks s with
  | nil => rfl
  | cons line lines ih =>
    rw [lineScript, List.map_cons]
    by_cases hsees : seesCancel cancelAt looks = true
    · rw [if_pos hsees, heed_cons_of_sees hsees]
      rfl
    · rw [if_neg hsees, heed_cons hsees]
      simp only [ih]
      split <;> simp [Normalizer.feed]

/-- What comes after the lines fed of a body. -/
def ending (body : Body) (seen : Bool) (s : n.State) : List ChatEvent :=
  if seen then [.error .cancelled]
  else (body.fault?).elim (n.onEnd s ++ [.done .zero]) fun cause => [.error cause]

/-- What follows lines, by what is heeded of them. -/
theorem followedBy_lineScript (cancelAt : CancelAt) (looks : Nat) (s : n.State)
    (lines : List String) (next : n.State → List ChatEvent) :
    followedBy (lineScript n cancelAt looks s lines) next =
      (n.feed s (heed cancelAt looks (lines.map some)).1).2.flatten ++
        if (heed cancelAt looks (lines.map some)).2 then [.error .cancelled]
        else next (n.feed s (heed cancelAt looks (lines.map some)).1).1 := by
  rw [lineScript_eq, followedBy]
  by_cases hseen : (heed cancelAt looks (lines.map some)).2 = true
  · rw [if_pos hseen, if_pos hseen, Option.elim_none, List.append_nil]
  · rw [if_neg hseen, if_neg hseen, Option.elim_some, heed_lines_of_not_seen hseen]

/-- **The script of a body**: what is answered to the lines before the look
that sees cancellation, or to all of them, and one ending. -/
theorem script_eq (cancelAt : CancelAt) (looks : Nat) (s : n.State) (buffer : LineBuffer)
    (body : Body) :
    script n cancelAt looks s buffer body =
      (n.feed s (heed cancelAt looks (looksAt buffer body)).1).2.flatten ++
        ending n body (heed cancelAt looks (looksAt buffer body)).2
          (n.feed s (heed cancelAt looks (looksAt buffer body)).1).1 := by
  -- read by read: both sides count the looks taken and carry the state reached
  induction body generalizing looks s buffer with
  | nil =>
    by_cases hsees : seesCancel cancelAt looks = true
    · rw [script, if_pos hsees, looksAt, heed_cons_of_sees hsees]
      rfl
    · rw [script, if_neg hsees, endScript, followedBy_lineScript, looksAt,
        heed_cons hsees]
      rfl
  | cons read body ih =>
    by_cases hsees : seesCancel cancelAt looks = true
    · cases read <;> rw [script, if_pos hsees, looksAt, heed_cons_of_sees hsees] <;> rfl
    · cases read with
      | chunk bytes =>
        rw [script, if_neg hsees, looksAt, heed_cons hsees, heed_append]
        simp only [followedBy_lineScript, ih, List.length_map]
        by_cases hlines : (heed cancelAt (looks + 1) ((buffer.push bytes).2.map some)).2 = true
        · rw [if_pos hlines, if_pos hlines, hlines]
          rfl
        · rw [if_neg hlines, if_neg hlines, heed_lines_of_not_seen hlines]
          simp only [Option.toList_none, List.nil_append, n.feed_append, List.flatten_append,
            List.append_assoc]
          rfl
      | failure text =>
        rw [script, if_neg hsees, looksAt, heed_cons hsees]
        rfl
      | silence =>
        rw [script, if_neg hsees, looksAt, heed_cons hsees]
        rfl

end Pump

end Turnstile
