import Turnstile.Proofs.Text.Cap
import Turnstile.Sandbox.Capture
import Mathlib.Data.List.TakeWhile
import Mathlib.Data.Nat.Find
/-!
# Draining — what reading a pipe keeps and counts

The loop keeps bytes while there is room and counts them all. In whatever
reads bytes came, it has kept the first of them, as many as the cap, and
counted every one (`Drain.after`): a read keeps that so (`step_after`), and
hence a run (`run_after`). What is captured is then a matter of the bytes
and the cap, and of the read that ended the pipe (`capture_eq`).

The reads themselves need not be finitely many. The loop over a reader that
never runs out is at work as long as its rounds go on, and ends in the
first that does not (`rounds_end`), with what is captured of the
reads it has made.
-/

namespace Turnstile

namespace PipeRead

/-- The bytes of a read. -/
def bytes : PipeRead → Bytes
  | .data bytes => bytes
  | .interrupted | .failure _ => []

/-- The failure of a read. -/
def failure? : PipeRead → Option String
  | .failure text => some text
  | .data _ | .interrupted => none

/-- Reading goes on after it. A read of no bytes is the end of the pipe. -/
def goesOn : PipeRead → Bool
  | .data bytes => !bytes.isEmpty
  | .interrupted => true
  | .failure _ => false

theorem failure?_eq_some {read : PipeRead} {cause : String} :
    read.failure? = some cause ↔ read = .failure cause := by
  cases read <;> simp [failure?]

end PipeRead

namespace Captured

/-- The reads after which reading goes on. -/
def heard (stopAt : Option Nat) (reads : List PipeRead) : List PipeRead :=
  (readsUntilStop stopAt reads).takeWhile PipeRead.goesOn

/-- The bytes read before the end, a failure or the stop. -/
def heardBytes (stopAt : Option Nat) (reads : List PipeRead) : Bytes :=
  (heard stopAt reads).flatMap PipeRead.bytes

/-- The read that ended the reading, if one did and not the stop. -/
def ending? (stopAt : Option Nat) (reads : List PipeRead) : Option PipeRead :=
  ((readsUntilStop stopAt reads).dropWhile PipeRead.goesOn).head?

end Captured

/-! ## The loop -/

namespace Drain

/-- The drain after bytes, in whatever reads they came. -/
def after (max : Nat) (bytes : Bytes) : Drain := ⟨bytes.take max, bytes.length⟩

theorem after_nil (max : Nat) : after max [] = start := by
  rw [after, List.take_nil]
  rfl

/-- **Room is counted off what is kept**, so what is kept stays the first
bytes. -/
theorem take_after (max : Nat) (bytes more : Bytes) :
    (after max bytes).take max more = after max (bytes ++ more) := by
  have hroom : max - (bytes.take max).length = max - bytes.length := by
    rw [List.length_take]
    omega
  have hkept : bytes.take max ++ more.take (max - (bytes.take max).length) =
      (bytes ++ more).take max := by
    rw [hroom, ← List.take_append]
  have htotal : bytes.length + more.length = (bytes ++ more).length :=
    List.length_append.symm
  rw [take, after]
  dsimp only
  rw [hkept, htotal]
  rfl

/-- **What one read does** to the drain after bytes. -/
theorem step_after (max : Nat) (bytes : Bytes) (read : PipeRead) :
    (after max bytes).step max read =
      if read.goesOn then .ok (after max (bytes ++ read.bytes)) else .error read.failure? := by
  cases read with
  | data more =>
    cases more with
    | nil => rfl
    | cons b more =>
      have hstep : (after max bytes).step max (.data (b :: more)) =
          .ok ((after max bytes).take max (b :: more)) := rfl
      rw [hstep, take_after]
      rfl
  | interrupted =>
    have hgoes : PipeRead.interrupted.goesOn = true := rfl
    rw [if_pos hgoes, PipeRead.bytes, List.append_nil]
    rfl
  | failure text => rfl

/-- **What a run does**: the reads that it goes on after are added, and the
next one ends it. -/
theorem run_after (max : Nat) (bytes : Bytes) (reads : List PipeRead) :
    (after max bytes).run max reads =
      (after max (bytes ++ (reads.takeWhile PipeRead.goesOn).flatMap PipeRead.bytes),
        (reads.dropWhile PipeRead.goesOn).head?.bind PipeRead.failure?) := by
  induction reads generalizing bytes with
  | nil =>
    rw [List.takeWhile_nil, List.flatMap_nil, List.append_nil]
    rfl
  | cons read rest ih =>
    rw [run, step_after]
    by_cases hgoes : read.goesOn = true
    · rw [if_pos hgoes, List.takeWhile_cons_of_pos hgoes, List.dropWhile_cons_of_pos hgoes,
        List.flatMap_cons, ← List.append_assoc]
      exact ih (bytes ++ read.bytes)
    · rw [if_neg hgoes, List.takeWhile_cons_of_neg hgoes, List.dropWhile_cons_of_neg hgoes,
        List.flatMap_nil, List.append_nil]
      rfl

end Drain

namespace Captured

variable {max : Nat} {stopAt : Option Nat} {reads : List PipeRead}

/-- **What is captured** goes by the bytes read, the cap and the read that
ended the pipe. -/
theorem capture_eq (max : Nat) (stopAt : Option Nat) (reads : List PipeRead) :
    capture max stopAt reads =
      (Drain.after max (heardBytes stopAt reads)).captured max
        ((ending? stopAt reads).bind PipeRead.failure?) := by
  rw [capture, ← Drain.after_nil max, Drain.run_after, List.nil_append]
  rfl

/-! ## A reader that never runs out -/

/-- Stop is seen before the read of this number. -/
def stopSeen (stopAt : Option Nat) (i : Nat) : Bool :=
  match stopAt with
  | some n => n ≤ i
  | none => false

/-- A round of the loop: stop is looked for, and then a read is made. -/
def round (max : Nat) (stopped : Bool) (d : Drain) (read : PipeRead) : Except Captured Drain :=
  if stopped then .error (d.captured max none)
  else
    match d.step max read with
    | .ok d => .ok d
    | .error cause => .error (d.captured max cause)

/-- The loop over a reader after so many rounds: still at work, or ended
with what was captured. -/
def rounds (max : Nat) (stopAt : Option Nat) (reader : Nat → PipeRead) :
    Nat → Except Captured Drain
  | 0 => .ok .start
  | i + 1 =>
    match rounds max stopAt reader i with
    | .ok d => round max (stopSeen stopAt i) d (reader i)
    | .error c => .error c

/-- The first reads of a reader. -/
def firstReads (reader : Nat → PipeRead) (count : Nat) : List PipeRead :=
  (List.range count).map reader

/-- A round after which the loop is still at work. -/
def GoesOn (stopAt : Option Nat) (reader : Nat → PipeRead) (i : Nat) : Prop :=
  stopSeen stopAt i = false ∧ (reader i).goesOn = true

variable {reader : Nat → PipeRead} {count : Nat}

theorem firstReads_succ (reader : Nat → PipeRead) (count : Nat) :
    firstReads reader (count + 1) = firstReads reader count ++ [reader count] := by
  rw [firstReads, List.range_succ, List.map_append]
  rfl

theorem length_firstReads (reader : Nat → PipeRead) (count : Nat) :
    (firstReads reader count).length = count := by
  rw [firstReads, List.length_map, List.length_range]

theorem goesOn_of_mem_firstReads (h : ∀ i < count, GoesOn stopAt reader i) :
    ∀ read ∈ firstReads reader count, read.goesOn = true := by
  intro read hread
  obtain ⟨i, hi, rfl⟩ := List.mem_map.mp hread
  exact (h i (List.mem_range.mp hi)).2

/-- Where no stop is seen before the reads, they all happen. -/
theorem readsUntilStop_of_not_seen (h : ∀ i < reads.length, stopSeen stopAt i = false) :
    readsUntilStop stopAt reads = reads := by
  cases stopAt with
  | none => rfl
  | some n =>
    have hlate : reads.length ≤ n := by
      by_contra hearly
      have hseen := h n (by omega)
      rw [stopSeen] at hseen
      exact of_decide_eq_false hseen (Nat.le_refl n)
    exact List.take_of_length_le hlate

/-- While its rounds go on, the loop is at work. -/
theorem rounds_of_goesOn (h : ∀ i < count, GoesOn stopAt reader i) :
    rounds max stopAt reader count =
      .ok (Drain.after max ((firstReads reader count).flatMap PipeRead.bytes)) := by
  induction count with
  | zero =>
    have hnone : (firstReads reader 0).flatMap PipeRead.bytes = [] := rfl
    rw [rounds, hnone, Drain.after_nil]
  | succ count ih =>
    obtain ⟨hseen, hgoes⟩ := h count (Nat.lt_succ_self count)
    rw [rounds, ih fun i hi => h i (by omega)]
    dsimp only
    rw [round, hseen, if_neg Bool.false_ne_true, Drain.step_after, if_pos hgoes,
      firstReads_succ, List.flatMap_append, List.flatMap_singleton]

/-- All of the first reads are heard where the rounds go on. -/
theorem takeWhile_firstReads (h : ∀ i < count, GoesOn stopAt reader i) :
    (firstReads reader count).takeWhile PipeRead.goesOn = firstReads reader count :=
  List.takeWhile_eq_self_iff.mpr (goesOn_of_mem_firstReads h)

/-- **The stop ends the loop**, with what is captured of the reads before
it. -/
theorem rounds_of_stopSeen (h : ∀ i < count, GoesOn stopAt reader i)
    (hseen : stopSeen stopAt count = true) :
    rounds max stopAt reader (count + 1) =
      .error (capture max stopAt (firstReads reader (count + 1))) := by
  have hmade : readsUntilStop stopAt (firstReads reader (count + 1)) = firstReads reader count := by
    cases stopAt with
    | none => cases hseen
    | some n =>
      have hle : n ≤ count := of_decide_eq_true hseen
      -- seen any earlier, it would have ended an earlier round
      have hge : count ≤ n := by
        by_contra hearly
        have hseen' := (h n (by omega)).1
        exact of_decide_eq_false hseen' (Nat.le_refl n)
      have hlength := length_firstReads reader count
      rw [readsUntilStop, firstReads_succ]
      exact List.take_left' (by omega)
  have hnothing : (firstReads reader count).dropWhile PipeRead.goesOn = [] :=
    List.dropWhile_eq_nil_iff.mpr (goesOn_of_mem_firstReads h)
  rw [rounds, rounds_of_goesOn h]
  dsimp only
  rw [round, hseen, if_pos rfl, capture_eq, heardBytes, heard, ending?, hmade,
    takeWhile_firstReads h, hnothing]
  rfl

/-- **So does a read that reading does not go on after**, with what is
captured of the reads it has made. -/
theorem rounds_of_ended (h : ∀ i < count, GoesOn stopAt reader i)
    (hseen : stopSeen stopAt count = false) (hends : (reader count).goesOn = false) :
    rounds max stopAt reader (count + 1) =
      .error (capture max stopAt (firstReads reader (count + 1))) := by
  have hmade : readsUntilStop stopAt (firstReads reader (count + 1)) =
      firstReads reader count ++ [reader count] := by
    rw [← firstReads_succ]
    refine readsUntilStop_of_not_seen fun i hi => ?_
    rw [length_firstReads] at hi
    rcases Nat.lt_succ_iff_lt_or_eq.mp hi with hlt | rfl
    · exact (h i hlt).1
    · exact hseen
  have hends' : ¬ (reader count).goesOn = true := by simp [hends]
  have hheard : (firstReads reader count ++ [reader count]).takeWhile PipeRead.goesOn =
      firstReads reader count := by
    rw [List.takeWhile_append_of_pos (goesOn_of_mem_firstReads h),
      List.takeWhile_cons_of_neg hends', List.append_nil]
  have hrest : (firstReads reader count ++ [reader count]).dropWhile PipeRead.goesOn =
      [reader count] := by
    rw [List.dropWhile_append_of_pos (goesOn_of_mem_firstReads h),
      List.dropWhile_cons_of_neg hends']
  rw [rounds, rounds_of_goesOn h]
  dsimp only
  rw [round, hseen, if_neg Bool.false_ne_true, Drain.step_after, if_neg hends', capture_eq,
    heardBytes, heard, ending?, hmade, hheard, hrest]
  rfl

/-- A loop that has ended does nothing more. -/
theorem rounds_of_le {c : Captured} (h : rounds max stopAt reader count = .error c) {later : Nat}
    (hle : count ≤ later) : rounds max stopAt reader later = .error c := by
  induction hle with
  | refl => exact h
  | step _ ih => rw [rounds, ih]

/-- **The loop ends** if it is stopped or a read ends the pipe, in that
round or an earlier one. -/
theorem rounds_end {n : Nat} (h : stopAt = some n ∨ (reader n).goesOn = false) :
    ∃ made ≤ n + 1, ∀ later ≥ made,
      rounds max stopAt reader later = .error (capture max stopAt (firstReads reader made)) := by
  classical
  have hn : ¬ GoesOn stopAt reader n := by
    rintro ⟨hseen, hgoes⟩
    rcases h with rfl | hends
    · exact of_decide_eq_false hseen (Nat.le_refl n)
    · rw [hends] at hgoes
      cases hgoes
  -- the first round that does not go on is the one that ends it
  have hexists : ∃ i, ¬ GoesOn stopAt reader i := ⟨n, hn⟩
  have hle : Nat.find hexists ≤ n := Nat.find_min' hexists hn
  have hbefore : ∀ i < Nat.find hexists, GoesOn stopAt reader i := fun i hi =>
    not_not.mp (Nat.find_min hexists hi)
  have hfirst := Nat.find_spec hexists
  refine ⟨Nat.find hexists + 1, by omega, fun later hlater => rounds_of_le ?_ hlater⟩
  by_cases hseen : stopSeen stopAt (Nat.find hexists) = true
  · exact rounds_of_stopSeen hbefore hseen
  · have hseen : stopSeen stopAt (Nat.find hexists) = false := by simpa using hseen
    refine rounds_of_ended hbefore hseen ?_
    by_contra hgoes
    exact hfirst ⟨hseen, by simpa using hgoes⟩

/-! ## What is accounted for -/

/-- What was captured accounts for the bytes read under a cap. -/
structure Accounted (max : Nat) (stopAt : Option Nat) (reads : List PipeRead) (c : Captured) :
    Prop where
  /-- All bytes before the end, a failure or the stop are counted. -/
  total : c.totalBytes = (heardBytes stopAt reads).length
  truncated_iff : c.truncated = true ↔ max < c.totalBytes
  /-- The text is within the cap, apart from the mark, which is there
  exactly if bytes were dropped. -/
  text : ∃ shown : String, shown.utf8ByteSize ≤ max ∧
    c.text = if c.truncated then shown ++ Text.truncationMarker else shown
  /-- Its bytes are well-formed and read as it. -/
  wellFormed : Utf8.decode? (Utf8.encode c.text) = some c.text
  /-- A failure is told exactly if it is what ended the reading. -/
  error_iff : ∀ cause, c.error = some cause ↔ ending? stopAt reads = some (.failure cause)

/-- **Every capture accounts for what was read.** -/
theorem accounted_capture (max : Nat) (stopAt : Option Nat) (reads : List PipeRead) :
    Accounted max stopAt reads (capture max stopAt reads) := by
  rw [capture_eq]
  generalize hbytes : heardBytes stopAt reads = bytes
  constructor
  case total =>
    rw [hbytes]
    rfl
  case truncated_iff => exact decide_eq_true_iff
  case text =>
    refine ⟨Text.truncate (Utf8.decodeLossy (bytes.take max)) max, Text.truncate_le _ max, ?_⟩
    rw [Drain.captured]
    simp only [decide_eq_true_eq]
    rfl
  case wellFormed =>
    rw [Utf8.decode?, Utf8.symbols_encode, Utf8.textOf?]
    simp
  case error_iff =>
    intro cause
    rw [Drain.captured, Option.bind_eq_some_iff]
    constructor
    · rintro ⟨read, hread, hcause⟩
      rw [hread, PipeRead.failure?_eq_some.mp hcause]
    · intro hread
      exact ⟨_, hread, rfl⟩

/-- **What is captured of a pipe.** In whatever reads its bytes come, they
are all counted, and the text goes by them and the cap alone: it is within
the cap, apart from the mark that tells of bytes dropped, and well-formed.
A failure is told exactly if it ended the reading. And the reading does
end, of a pipe that never runs out as well, with the stop or with the first
read that ends the pipe. -/
theorem capture_accounts (max : Nat) (stopAt : Option Nat) :
    (∀ reads, Accounted max stopAt reads (capture max stopAt reads)) ∧
    (∀ reads stopAt' reads', heardBytes stopAt' reads' = heardBytes stopAt reads →
      (capture max stopAt' reads').text = (capture max stopAt reads).text) ∧
    ∀ (reader : Nat → PipeRead) n, stopAt = some n ∨ (reader n).goesOn = false →
      ∃ made ≤ n + 1, ∀ later ≥ made,
        rounds max stopAt reader later = .error (capture max stopAt (firstReads reader made)) := by
  refine ⟨accounted_capture max stopAt, fun reads stopAt' reads' hsame => ?_,
    fun reader n h => rounds_end h⟩
  rw [capture_eq, capture_eq, hsame]
  rfl

/-- A pipe that gives a character of two bytes again and again, every other
read interrupted. -/
def dripping (i : Nat) : PipeRead := if i % 2 = 0 then .data [0xC3, 0xA9] else .interrupted

/-- Stopped before its sixth read, the loop over it has ended with what
three reads of two bytes come to, as they do in other pieces with a failure
after them: of a cap of five bytes two characters are shown. -/
theorem capture_accounts_dripping :
    (∃ made ≤ 6, ∀ later ≥ made, rounds 5 (some 5) dripping later =
      .error (capture 5 (some 5) (firstReads dripping made))) ∧
    (capture 5 (some 5) (firstReads dripping 6)).text = "éé" ++ Text.truncationMarker ∧
    (capture 5 none [.data [0xC3], .data [0xA9, 0xC3, 0xA9, 0xC3], .interrupted, .data [0xA9],
      .failure "gone", .data [0x21]]).text = "éé" ++ Text.truncationMarker := by
  obtain ⟨-, hsame, hends⟩ := capture_accounts 5 (some 5)
  have htext : (capture 5 (some 5) (firstReads dripping 6)).text =
      "éé" ++ Text.truncationMarker := by decide +kernel
  have hbytes : heardBytes none [.data [0xC3], .data [0xA9, 0xC3, 0xA9, 0xC3], .interrupted,
      .data [0xA9], .failure "gone", .data [0x21]] =
      heardBytes (some 5) (firstReads dripping 6) := by decide
  exact ⟨hends dripping 5 (Or.inl rfl), htext, (hsame _ _ _ hbytes).trans htext⟩

end Captured

end Turnstile
