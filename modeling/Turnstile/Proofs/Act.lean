import Turnstile.World
/-!
# Actions — errors that come before any change

For a kind of error: an action that leaves the world as it is whatever
happens (`Still`), one that gives no such error (`Never`), and one that
gives such an error only with the world as it was (`FailsEarly`). Still
actions may come first in any number (`FailsEarly.bind_of_still`); what
comes once something may have changed must not give such an error any more
(`FailsEarly.bind_of_never`).
-/

namespace Turnstile

namespace Act

section

variable {ε δ α β : Type} (p : ε → Bool)

/-- The action leaves the world as it is. -/
def Still (act : Act ε α) : Prop := ∀ w, (act.on w).2 = w

/-- The action gives no error of a kind. -/
def Never (act : Act ε α) : Prop := ∀ w e, (act.on w).1 = .error e → p e = false

/-- The action gives an error of a kind only with the world as it was. -/
def FailsEarly (act : Act ε α) : Prop :=
  ∀ w e, (act.on w).1 = .error e → p e = true → (act.on w).2 = w

variable {p}

/-- One action after another: the first fails, or the second runs where it
left the world. -/
theorem bind_cases (act : Act ε α) (next : α → Act ε β) (w : World) :
    (∃ e after, act.on w = (.error e, after) ∧ (act >>= next).on w = (.error e, after)) ∨
      ∃ x after, act.on w = (.ok x, after) ∧ (act >>= next).on w = (next x).on after := by
  rcases hact : act.on w with ⟨e | x, after⟩
  · exact Or.inl ⟨e, after, rfl, by rw [on_bind, hact]⟩
  · exact Or.inr ⟨x, after, rfl, by rw [on_bind, hact]⟩

/-- Where one action after another succeeds, both do. -/
theorem exists_of_bind {act : Act ε α} {next : α → Act ε β} {w after : World} {y : β}
    (h : (act >>= next).on w = (.ok y, after)) :
    ∃ x mid, act.on w = (.ok x, mid) ∧ (next x).on mid = (.ok y, after) := by
  rcases bind_cases act next w with ⟨e, mid, -, hbind⟩ | ⟨x, mid, hact, hbind⟩
  · rw [hbind] at h
    cases h
  · exact ⟨x, mid, hact, hbind ▸ h⟩

/-- An action whose failures are renamed succeeds as it did. -/
theorem of_orElse {act : Act δ α} {f : δ → ε} {w after : World} {x : α}
    (h : (act.orElse f).on w = (.ok x, after)) : act.on w = (.ok x, after) := by
  rw [on_orElse] at h
  rcases hact : act.on w with ⟨e | y, mid⟩
  · rw [hact] at h
    cases h
  · rw [hact] at h
    cases h
    rfl

/-! ## Actions that leave the world as it is -/

theorem still_pure (x : α) : Still (pure x : Act ε α) := fun _ => rfl

theorem still_throw (e : ε) : Still (throw e : Act ε α) := fun _ => rfl

theorem still_look : Still (look : Act ε World) := fun _ => rfl

theorem still_ofExcept (e : Except ε α) : Still (ofExcept e) := fun _ => rfl

theorem Still.bind {act : Act ε α} {next : α → Act ε β} (h : Still act)
    (hnext : ∀ x, Still (next x)) : Still (act >>= next) := by
  intro w
  have hact := h w
  rcases bind_cases act next w with ⟨e, after, hrun, hbind⟩ | ⟨x, after, hrun, hbind⟩
  · rw [hbind, ← hact, hrun]
  · rw [hbind, hnext x after, ← hact, hrun]

theorem Still.orElse {act : Act ε α} (h : Still act) (f : ε → δ) : Still (act.orElse f) :=
  h

/-! ## Actions without errors of a kind -/

theorem never_pure (x : α) : Never p (pure x : Act ε α) := by
  intro w e h
  cases h

theorem never_throw {e : ε} (he : p e = false) : Never p (throw e : Act ε α) := by
  intro w e' h
  cases h
  exact he

theorem never_look : Never p (look : Act ε World) := by
  intro w e h
  cases h

theorem never_change (f : World → World) : Never p (change f : Act ε Unit) := by
  intro w e h
  cases h

theorem never_lift (act : StateM World α) : Never p (liftM act : Act ε α) := by
  intro w e h
  cases h

theorem never_ofExcept {x : Except ε α} (hx : ∀ e, x = .error e → p e = false) :
    Never p (ofExcept x) := fun _ e h => hx e h

theorem never_orElse {act : Act δ α} {f : δ → ε} (hf : ∀ e, p (f e) = false) :
    Never p (act.orElse f) := by
  intro w e h
  rw [on_orElse] at h
  cases hact : (act.on w).1 with
  | error e' =>
    rw [hact] at h
    cases h
    exact hf e'
  | ok x =>
    rw [hact] at h
    cases h

theorem Never.bind {act : Act ε α} {next : α → Act ε β} (h : Never p act)
    (hnext : ∀ x, Never p (next x)) : Never p (act >>= next) := by
  intro w e he
  rcases bind_cases act next w with ⟨e', after, hrun, hbind⟩ | ⟨x, after, -, hbind⟩
  · rw [hbind] at he
    cases he
    exact h w e (by rw [hrun])
  · rw [hbind] at he
    exact hnext x after e he

/-- A check that gives another error. -/
theorem Never.unless {next : Act ε β} (h : Never p next) (c : Prop) [Decidable c] {e : ε}
    (he : p e = false) : Never p (if c then (throw e >>= fun _ : PUnit => next) else next) := by
  split
  · exact (never_throw he).bind fun _ => h
  · exact h

/-! ## Actions that fail early -/

theorem Still.failsEarly {act : Act ε α} (h : Still act) : FailsEarly p act :=
  fun w _ _ _ => h w

theorem Never.failsEarly {act : Act ε α} (h : Never p act) : FailsEarly p act := by
  intro w e he hp
  rw [h w e he] at hp
  cases hp

/-- Looking first does no harm. -/
theorem FailsEarly.bind_of_still {act : Act ε α} {next : α → Act ε β} (h : Still act)
    (hnext : ∀ x, FailsEarly p (next x)) : FailsEarly p (act >>= next) := by
  intro w e he hp
  have hact := h w
  rcases bind_cases act next w with ⟨e', after, hrun, hbind⟩ | ⟨x, after, hrun, hbind⟩
  · rw [hbind, ← hact, hrun]
  · rw [hbind] at he ⊢
    rw [hnext x after e he hp, ← hact, hrun]

/-- Nor does what comes later, if it gives no such error. -/
theorem FailsEarly.bind_of_never {act : Act ε α} {next : α → Act ε β} (h : FailsEarly p act)
    (hnext : ∀ x, Never p (next x)) : FailsEarly p (act >>= next) := by
  intro w e he hp
  rcases bind_cases act next w with ⟨e', after, hrun, hbind⟩ | ⟨x, after, hrun, hbind⟩
  · rw [hbind] at he ⊢
    cases he
    have hfirst := h w e (by rw [hrun]) hp
    rwa [hrun] at hfirst
  · rw [hbind] at he
    rw [hnext x after e he] at hp
    cases hp

/-- A check before anything else is done. -/
theorem FailsEarly.unless {next : Act ε β} (h : FailsEarly p next) (c : Prop) [Decidable c]
    (e : ε) : FailsEarly p (if c then (throw e >>= fun _ : PUnit => next) else next) := by
  split
  · exact FailsEarly.bind_of_still (still_throw e) fun _ => h
  · exact h

/-- Errors that are renamed to such errors were such before. -/
theorem FailsEarly.orElse {q : δ → Bool} {act : Act δ α} (h : FailsEarly q act) {f : δ → ε}
    (hf : ∀ e, p (f e) = true → q e = true) : FailsEarly p (act.orElse f) := by
  intro w e he hp
  rw [on_orElse] at he ⊢
  cases hact : (act.on w).1 with
  | error e' =>
    rw [hact] at he
    cases he
    exact h w e' hact (hf e' hp)
  | ok x =>
    rw [hact] at he
    cases he

end

end Act

end Turnstile
