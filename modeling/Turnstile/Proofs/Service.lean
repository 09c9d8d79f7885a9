import Mathlib.Data.List.Induction
/-!
# Services — one request after another

A service answers a request and is left in a state. Whatever its clients
are doing, it serves one request at a time, so what they can see is a
history of requests in the order they were served, each with its answer
(`run`). Every interleaving of the clients is a history.

Two things are said of any service. A part of the state that each request
writes or leaves alone is what was written there last
(`view_after`). And requests that change nothing another part of the state
can tell may be left out of the history without being missed
(`run_filter`).
-/

namespace Turnstile

namespace Service

variable {σ ρ α β γ : Type} (serve : σ → ρ → α × σ)

/-! ## Histories -/

/-- The state that requests leave. -/
def after (s : σ) (history : List ρ) : σ :=
  history.foldl (fun s request => (serve s request).2) s

/-- The requests in the order they are served, each with its answer. -/
def run : σ → List ρ → List (ρ × α)
  | _, [] => []
  | s, request :: rest => (request, (serve s request).1) :: run (serve s request).2 rest

@[simp] theorem after_nil (s : σ) : after serve s [] = s := rfl

theorem after_cons (s : σ) (request : ρ) (rest : List ρ) :
    after serve s (request :: rest) = after serve (serve s request).2 rest := rfl

theorem after_concat (s : σ) (history : List ρ) (request : ρ) :
    after serve s (history ++ [request]) = (serve (after serve s history) request).2 := by
  simp [after]

/-- Every request is answered, and in turn. -/
theorem map_fst_run (s : σ) (history : List ρ) : (run serve s history).map (·.1) = history := by
  induction history generalizing s with
  | nil => rfl
  | cons request rest ih => rw [run, List.map_cons, ih]

/-- **An answer is told by what was served before**: it is the one given in
the state those requests leave. -/
theorem getElem?_run (s : σ) (history : List ρ) (i : Nat) :
    (run serve s history)[i]? =
      history[i]?.map fun request =>
        (request, (serve (after serve s (history.take i)) request).1) := by
  induction history generalizing s i with
  | nil => rfl
  | cons request rest ih =>
    rcases i with _ | i
    · rfl
    · rw [run, List.getElem?_cons_succ, ih, List.getElem?_cons_succ, List.take_succ_cons,
        after_cons]

theorem answer_of_getElem?_run {s : σ} {history : List ρ} {i : Nat} {request : ρ} {answer : α}
    (h : (run serve s history)[i]? = some (request, answer)) :
    answer = (serve (after serve s (history.take i)) request).1 := by
  rw [getElem?_run, Option.map_eq_some_iff] at h
  obtain ⟨served, -, heq⟩ := h
  obtain ⟨rfl, rfl⟩ := Prod.mk.inj heq
  rfl

/-- What every request keeps is kept by a history. -/
theorem invariant_after (Inv : σ → Prop)
    (hstep : ∀ s request, Inv s → Inv (serve s request).2)
    {s : σ} (h : Inv s) (history : List ρ) : Inv (after serve s history) := by
  induction history generalizing s with
  | nil => exact h
  | cons request rest ih => exact ih (hstep s request h)

/-! ## Last writes -/

/-- What was written last, where a write puts a value or takes it away. -/
def lastWrite (writes : ρ → Option (Option β)) (history : List ρ) : Option β :=
  (history.filterMap writes).getLast?.join

theorem lastWrite_concat (writes : ρ → Option (Option β)) (history : List ρ) (request : ρ) :
    lastWrite writes (history ++ [request]) =
      (writes request).getD (lastWrite writes history) := by
  rcases hwrite : writes request with _ | value
  · simp [lastWrite, List.filterMap_append, hwrite]
  · simp [lastWrite, List.filterMap_append, hwrite]

/-- **A value stands** exactly if it was put by some request and none after
that one wrote there. -/
theorem lastWrite_eq_some_iff {writes : ρ → Option (Option β)} {history : List ρ} {value : β} :
    lastWrite writes history = some value ↔
      ∃ before request later, history = before ++ request :: later ∧
        writes request = some (some value) ∧ ∀ other ∈ later, writes other = none := by
  induction history using List.reverseRecOn with
  | nil => simp [lastWrite]
  | append_singleton history last ih =>
    rw [lastWrite_concat]
    constructor
    · intro h
      rcases hwrite : writes last with _ | written
      · rw [hwrite, Option.getD_none] at h
        obtain ⟨before, request, later, rfl, hput, hlater⟩ := ih.mp h
        refine ⟨before, request, later ++ [last], by simp, hput, fun other hother => ?_⟩
        rcases List.mem_append.mp hother with hother | hother
        · exact hlater other hother
        · rw [List.mem_singleton.mp hother, hwrite]
      · rw [hwrite, Option.getD_some] at h
        exact ⟨history, last, [], rfl, by rw [hwrite, h], fun _ hother => absurd hother (by simp)⟩
    · rintro ⟨before, request, later, hsplit, hput, hlater⟩
      rcases List.eq_nil_or_concat later with rfl | ⟨later, other, rfl⟩
      · obtain ⟨-, hlast⟩ := List.append_inj' hsplit rfl
        obtain rfl := List.singleton_inj.mp hlast
        rw [hput, Option.getD_some]
      · have hsplit' : history ++ [last] = (before ++ request :: later) ++ [other] := by
          rw [hsplit, List.append_assoc, List.cons_append, List.concat_eq_append]
        obtain ⟨hhistory, hlast⟩ := List.append_inj' hsplit' rfl
        obtain rfl := List.singleton_inj.mp hlast
        rw [hlater last (by simp), Option.getD_none]
        exact ih.mpr ⟨before, request, later, hhistory, hput,
          fun other hother => hlater other (by simp [hother])⟩

/-- **What is there is what was written last**, where every request writes
or leaves what is there. -/
theorem view_after (view : σ → Option β) (writes : ρ → Option (Option β))
    (hstep : ∀ s request, view (serve s request).2 = (writes request).getD (view s)) {s : σ}
    (hs : view s = none) (history : List ρ) :
    view (after serve s history) = lastWrite writes history := by
  induction history using List.reverseRecOn with
  | nil => exact hs
  | append_singleton history request ih => rw [after_concat, hstep, ih, lastWrite_concat]

/-! ## Requests left out -/

/-- **Requests that leave no trace are not missed.** Two states are alike
for someone who sees of every answer a part only. Requests of one kind
leave them alike and are answered alike as far as that part goes; the
others, served in the one state alone, leave them alike as well. Then what
is seen of the requests of that kind is what is seen without the
others. -/
theorem run_filter (Alike : σ → σ → Prop) (keep : ρ → Bool)
    (see : α → γ)
    (hskip : ∀ s t request, Alike s t → keep request = false → Alike (serve s request).2 t)
    (hserve : ∀ s t request, Alike s t → keep request = true →
      Alike (serve s request).2 (serve t request).2 ∧
        see (serve s request).1 = see (serve t request).1)
    {s t : σ} (h : Alike s t) (history : List ρ) :
    ((run serve s history).filter fun entry => keep entry.1).map
        (fun entry => (entry.1, see entry.2)) =
      (run serve t (history.filter keep)).map fun entry => (entry.1, see entry.2) := by
  induction history generalizing s t with
  | nil => rfl
  | cons request rest ih =>
    rw [run]
    rcases hkeep : keep request with _ | _
    · rw [List.filter_cons_of_neg (by simp [hkeep]), List.filter_cons_of_neg (by simp [hkeep])]
      exact ih (hskip s t request h hkeep)
    · obtain ⟨hnext, hsame⟩ := hserve s t request h hkeep
      rw [List.filter_cons_of_pos (by simpa using hkeep), List.filter_cons_of_pos hkeep, run,
        List.map_cons, List.map_cons, ih hnext, hsame]

end Service

end Turnstile
