import Turnstile.Proofs.Stream.Answers
/-!
# Handlers — normalizers that go by what lines carry

A vendor's normalizer reads a line for an event, handles the event, and
heeds nothing more once it has finished. So a run over lines is a run over
the events they carry: answer for answer (`answersFrom_eq_replies`), or
with all answers together (`runFrom_eq_follow`), where lines without an
event leave no trace.
-/

namespace Turnstile

/-- What is done about events `ε` once they are read from their lines. -/
structure Handler (σ ε : Type) where
  handle : σ → ε → σ × List ChatEvent
  finished : σ → Bool
  /-- The end of the body, where nothing has finished before. -/
  close : σ → List ChatEvent

namespace Handler

variable {σ ε : Type} (h : Handler σ ε) {s : σ}

/-- Take in what a line carries. -/
def take (s : σ) : Option ε → σ × List ChatEvent
  | some e => h.handle s e
  | none => (s, [])

/-- The end of the body. -/
def onEnd (s : σ) : List ChatEvent := if h.finished s then [] else h.close s

variable {h} in
theorem onEnd_of_finished (hs : h.finished s = true) : h.onEnd s = [] := by
  rw [onEnd, if_pos hs]

variable {h} in
theorem onEnd_of_open (hs : h.finished s = false) : h.onEnd s = h.close s := by
  rw [onEnd, if_neg (by simp [hs])]

/-- The normalizer that reads lines this way. -/
def normalizer (event? : String → Option ε) (start : σ) : Normalizer where
  State := σ
  start
  onLine s line := if h.finished s then (s, []) else h.take s (event? line)
  onEnd := h.onEnd

theorem onLine_normalizer (event? : String → Option ε) (start s : σ) (line : String) :
    (h.normalizer event? start).onLine s line =
      if h.finished s then (s, []) else h.take s (event? line) :=
  rfl

/-! ## Replies -/

/-- What is answered to each line, given what they carry, and last to the
end. -/
def replies (s : σ) : List (Option ε) → List (List ChatEvent)
  | [] => [h.onEnd s]
  | x :: xs =>
    if h.finished s then [] :: replies s xs else (h.take s x).2 :: replies (h.take s x).1 xs

variable {h} in
theorem replies_cons_of_finished (hs : h.finished s = true) (x : Option ε)
    (xs : List (Option ε)) : h.replies s (x :: xs) = [] :: h.replies s xs := by
  rw [replies, if_pos hs]

variable {h} in
theorem replies_cons (hs : h.finished s = false) (x : Option ε) (xs : List (Option ε)) :
    h.replies s (x :: xs) = (h.take s x).2 :: h.replies (h.take s x).1 xs := by
  rw [replies, if_neg (by simp [hs])]

/-- **Answers to lines are replies to what they carry.** -/
theorem answersFrom_eq_replies (event? : String → Option ε) (start s : σ) (lines : List String) :
    (h.normalizer event? start).answersFrom s lines = h.replies s (lines.map event?) := by
  induction lines generalizing s with
  | nil => rfl
  | cons line lines ih =>
    have hline := (h.normalizer event? start).answersFrom_cons s line lines
    refine hline.trans ?_
    rw [onLine_normalizer, ih, List.map_cons]
    by_cases hs : h.finished s = true
    · rw [replies_cons_of_finished hs, if_pos hs]
    · rw [replies_cons (by simpa using hs), if_neg hs]

/-! ## Events -/

/-- What is answered to events in turn, and the state reached. -/
def through (s : σ) : List ε → σ × List ChatEvent
  | [] => (s, [])
  | e :: es =>
    ((through (h.handle s e).1 es).1, (h.handle s e).2 ++ (through (h.handle s e).1 es).2)

theorem through_append (es more : List ε) :
    h.through s (es ++ more) =
      ((h.through (h.through s es).1 more).1,
        (h.through s es).2 ++ (h.through (h.through s es).1 more).2) := by
  induction es generalizing s with
  | nil => rfl
  | cons e es ih => rw [List.cons_append, through, ih, through, List.append_assoc]

/-- What is answered to events and to the end after them, up to where
something finishes. -/
def follow (s : σ) : List ε → List ChatEvent
  | [] => h.onEnd s
  | e :: es => if h.finished s then [] else (h.handle s e).2 ++ follow (h.handle s e).1 es

variable {h} in
theorem follow_of_finished (hs : h.finished s = true) (es : List ε) : h.follow s es = [] := by
  cases es with
  | nil => rw [follow, onEnd_of_finished hs]
  | cons e es => rw [follow, if_pos hs]

variable {h} in
theorem follow_cons (hs : h.finished s = false) (e : ε) (es : List ε) :
    h.follow s (e :: es) = (h.handle s e).2 ++ h.follow (h.handle s e).1 es := by
  rw [follow, if_neg (by simp [hs])]

/-- **A run over lines is a run over the events they carry.** -/
theorem runFrom_eq_follow (event? : String → Option ε) (start s : σ) (lines : List String) :
    (h.normalizer event? start).runFrom s lines = h.follow s (lines.filterMap event?) := by
  induction lines generalizing s with
  | nil => rfl
  | cons line lines ih =>
    have hline := (h.normalizer event? start).runFrom_cons s line lines
    refine hline.trans ?_
    rw [onLine_normalizer, ih]
    by_cases hs : h.finished s = true
    · rw [if_pos hs, follow_of_finished hs, follow_of_finished hs]
      rfl
    · rw [if_neg hs]
      cases hline : event? line with
      | none =>
        rw [List.filterMap_cons_none hline]
        rfl
      | some e =>
        rw [List.filterMap_cons_some hline, follow_cons (by simpa using hs)]
        rfl

/-- An event that finishes nothing. -/
def Keeps (e : ε) : Prop := ∀ s, h.finished s = false → h.finished (h.handle s e).1 = false

variable {h} in
theorem finished_through {es : List ε} (hes : ∀ e ∈ es, h.Keeps e) (hs : h.finished s = false) :
    h.finished (h.through s es).1 = false := by
  induction es generalizing s with
  | nil => exact hs
  | cons e es ih =>
    exact ih (fun e he => hes e (List.mem_cons_of_mem _ he)) (hes e List.mem_cons_self s hs)

variable {h} in
/-- Events that finish nothing come first. -/
theorem follow_append {es : List ε} (hes : ∀ e ∈ es, h.Keeps e) (hs : h.finished s = false)
    (more : List ε) :
    h.follow s (es ++ more) = (h.through s es).2 ++ h.follow (h.through s es).1 more := by
  induction es generalizing s with
  | nil => rfl
  | cons e es ih =>
    have hrest := ih (fun e he => hes e (List.mem_cons_of_mem _ he)) (hes e List.mem_cons_self s hs)
    rw [List.cons_append, follow_cons hs, hrest, through, List.append_assoc]

end Handler

end Turnstile
