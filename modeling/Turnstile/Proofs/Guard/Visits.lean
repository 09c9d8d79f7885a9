import Turnstile.Proofs.Guard.Agreement
import Mathlib.Logic.Relation
/-!
# The resolution, step by step

What a link leads to is resolved as a path of its own, in the midst of the
path that holds the link. Taken one step at a time the resolution is a
machine: it holds the place it has reached, the names still to be resolved
below it, and for every link it is following the names that wait behind
that link (`Visit`). Following a link puts more names in front of the
machine than it takes away, so what ends it is the limit on links followed
at once: every stretch of names it gets past, or fails on, as `resolveFrom`
says (`passes`), and so it halts on every path with the answer of the
resolution (`halts_start`).
-/

namespace Turnstile

namespace FileTree

/-- Looking at a place shows no link, or a link, or fails otherwise than
for want of anything there. -/
theorem look_cases (t : FileTree) (p : AbsPath) :
    t.NoLinkAt p ∨ (∃ target, t.lstat p = .ok (.link target)) ∨
      ∃ e, t.lstat p = .error e ∧ e ≠ .notFound := by
  cases hlook : t.lstat p with
  | ok entry =>
    cases entry with
    | link target => exact Or.inr (Or.inl ⟨target, rfl⟩)
    | _ => exact Or.inl (Or.inr ⟨_, hlook, rfl⟩)
  | error e =>
    by_cases he : e = .notFound
    · exact Or.inl (Or.inl (he ▸ hlook))
    · exact Or.inr (Or.inr ⟨e, rfl, he⟩)

end FileTree

namespace Guard

variable {t : FileTree} {done : AbsPath} {name : String} {names : List String}
variable {expand : List String → Except FileFailure AbsPath}

/-- A name is appended where looking shows no link. -/
theorem resolveFrom_of_noLinkAt (hup : name ≠ "..") (h : t.NoLinkAt (done ++ [name])) :
    resolveFrom t expand done (name :: names) =
      resolveFrom t expand (done ++ [name]) names := by
  rcases h with hmissing | ⟨entry, hlook, hlink⟩
  · rw [resolveFrom, if_neg hup, hmissing]
  · exact resolveFrom_down hup hlook hlink

/-- And the resolution fails where looking does. -/
theorem resolveFrom_of_error (hup : name ≠ "..") {e : FileFailure}
    (h : t.lstat (done ++ [name]) = .error e) (he : e ≠ .notFound) :
    resolveFrom t expand done (name :: names) = .error e := by
  rw [resolveFrom, if_neg hup, h]
  cases e with
  | notFound => exact absurd rfl he
  | _ => rfl

/-- A resolution under way. -/
structure Visit where
  done : AbsPath
  names : List String
  /-- The names behind each link that is being followed, the innermost
  first. -/
  waiting : List (List String)
  deriving DecidableEq, Repr, Inhabited

namespace Visit

/-- At the root, with everything still to be resolved. -/
def start (names : List String) : Visit := ⟨[], names, []⟩

/-- One step: take the next name, or go on behind the link whose target is
resolved; or the answer. -/
def advance (t : FileTree) : Visit → Visit ⊕ Except FileFailure AbsPath
  | ⟨done, [], []⟩ => .inr (.ok done)
  | ⟨done, [], rest :: waiting⟩ => .inl ⟨done, rest, waiting⟩
  | ⟨done, name :: rest, waiting⟩ =>
    if name = ".." then .inl ⟨done.dropLast, rest, waiting⟩
    else
      match t.lstat (done ++ [name]) with
      | .ok (.link target) =>
        if waiting.length < linkDepth then .inl ⟨[], absolute done target, rest :: waiting⟩
        else .inr (.error .linksTooDeep)
      | .ok _ | .error .notFound => .inl ⟨done ++ [name], rest, waiting⟩
      | .error e => .inr (.error e)

variable {waiting : List (List String)}

theorem advance_up :
    advance t ⟨done, ".." :: names, waiting⟩ = .inl ⟨done.dropLast, names, waiting⟩ := by
  rw [advance, if_pos rfl]

theorem advance_of_noLinkAt (hup : name ≠ "..") (h : t.NoLinkAt (done ++ [name])) :
    advance t ⟨done, name :: names, waiting⟩ = .inl ⟨done ++ [name], names, waiting⟩ := by
  rw [advance, if_neg hup]
  rcases h with hmissing | ⟨entry, hlook, hlink⟩
  · rw [hmissing]
  · rw [hlook]
    cases entry with
    | link target => cases hlink
    | _ => rfl

theorem advance_link (hup : name ≠ "..") {target : String}
    (h : t.lstat (done ++ [name]) = .ok (.link target)) :
    advance t ⟨done, name :: names, waiting⟩ =
      if waiting.length < linkDepth then .inl ⟨[], absolute done target, names :: waiting⟩
      else .inr (.error .linksTooDeep) := by
  rw [advance, if_neg hup, h]

theorem advance_of_error (hup : name ≠ "..") {e : FileFailure}
    (h : t.lstat (done ++ [name]) = .error e) (he : e ≠ .notFound) :
    advance t ⟨done, name :: names, waiting⟩ = .inr (.error e) := by
  rw [advance, if_neg hup, h]
  cases e with
  | notFound => exact absurd rfl he
  | _ => rfl

/-! ## Any number of steps -/

variable {v v' last : Visit} {result : Except FileFailure AbsPath}

/-- Some number of steps leads from one visit to the other. -/
def Reaches (t : FileTree) : Visit → Visit → Prop :=
  Relation.ReflTransGen fun v v' => v.advance t = .inl v'

/-- Some number of steps leads to an answer. -/
def Halts (t : FileTree) (v : Visit) (result : Except FileFailure AbsPath) : Prop :=
  ∃ last, Reaches t v last ∧ last.advance t = .inr result

theorem Reaches.cons (h : v.advance t = .inl v') (hrest : Reaches t v' last) :
    Reaches t v last :=
  Relation.ReflTransGen.head h hrest

theorem Halts.after (h : Reaches t v v') (hrest : Halts t v' result) : Halts t v result := by
  obtain ⟨last, hreaches, hlast⟩ := hrest
  exact ⟨last, h.trans hreaches, hlast⟩

/-- **One step keeps to the limit** on links followed at once. -/
theorem waiting_le_of_advance (h : v.advance t = .inl v') (hv : v.waiting.length ≤ linkDepth) :
    v'.waiting.length ≤ linkDepth := by
  obtain ⟨done, names, waiting⟩ := v
  cases names with
  | nil =>
    cases waiting with
    | nil => cases h
    | cons rest waiting =>
      cases h
      exact Nat.le_of_succ_le hv
  | cons name names =>
    by_cases hup : name = ".."
    · subst hup
      rw [advance_up] at h
      cases h
      exact hv
    · rcases t.look_cases (done ++ [name]) with hnone | ⟨target, hlook⟩ | ⟨e, hlook, he⟩
      · rw [advance_of_noLinkAt hup hnone] at h
        cases h
        exact hv
      · rw [advance_link hup hlook] at h
        split at h
        · rename_i hlt
          cases h
          exact hlt
        · cases h
      · rw [advance_of_error hup hlook he] at h
        cases h

/-- And so does a whole run. -/
theorem waiting_le (h : Reaches t (start names) v) : v.waiting.length ≤ linkDepth := by
  induction h with
  | refl => exact Nat.zero_le _
  | tail _ hstep ih => exact waiting_le_of_advance hstep ih

/-! ## What the machine comes to -/

/-- From a visit the machine gets past a stretch of names, to where the
names behind it are next, or it fails: as the result of the stretch
says. -/
structure Passes (t : FileTree) (v : Visit) (behind : List String)
    (result : Except FileFailure AbsPath) : Prop where
  ok : ∀ q, result = .ok q → Reaches t v ⟨q, behind, v.waiting⟩
  error : ∀ e, result = .error e → Halts t v (.error e)

theorem Passes.cons {behind : List String} (h : v.advance t = .inl v')
    (hwaiting : v'.waiting = v.waiting) (hrest : Passes t v' behind result) :
    Passes t v behind result where
  ok q hq := .cons h (hwaiting ▸ hrest.ok q hq)
  error e he := .after (Relation.ReflTransGen.single h) (hrest.error e he)

theorem Passes.fail {behind : List String} {e : FileFailure} (h : v.advance t = .inr (.error e)) :
    Passes t v behind (.error e) where
  ok q hq := nomatch hq
  error e' he := by
    cases he
    exact ⟨v, Relation.ReflTransGen.refl, h⟩

/-- Names are resolved in some number of steps, as long as links among them
are. -/
theorem passes_of_links
    (hlink : ∀ done name target rest, name ≠ ".." →
      t.lstat (done ++ [name]) = .ok (.link target) →
      Passes t ⟨done, name :: rest, waiting⟩ rest (expand (absolute done target))) :
    Passes t ⟨done, names, waiting⟩ [] (resolveFrom t expand done names) := by
  induction names generalizing done with
  | nil =>
    rw [resolveFrom]
    refine ⟨fun q hq => ?_, fun e he => ?_⟩
    · cases hq
      exact Relation.ReflTransGen.refl
    · cases he
  | cons name rest ih =>
    by_cases hup : name = ".."
    · subst hup
      rw [resolveFrom, if_pos rfl]
      exact ih.cons advance_up rfl
    · rcases t.look_cases (done ++ [name]) with hnone | ⟨target, hlook⟩ | ⟨e, hlook, he⟩
      · rw [resolveFrom_of_noLinkAt hup hnone]
        exact ih.cons (advance_of_noLinkAt hup hnone) rfl
      · rw [resolveFrom_link hup hlook]
        have hpast := hlink done name target rest hup hlook
        cases hmid : expand (absolute done target) with
        | ok mid =>
          have hreaches := hpast.ok mid hmid
          exact ⟨fun q hq => hreaches.trans (ih.ok q hq),
            fun e he => .after hreaches (ih.error e he)⟩
        | error e =>
          refine ⟨fun q hq => ?_, fun _ he => hpast.error _ (hmid.trans he)⟩
          cases hq
      · rw [resolveFrom_of_error hup hlook he]
        exact .fail (advance_of_error hup hlook he)

/-- **Names are resolved in some number of steps**, with as many levels of
links left as are not being followed. -/
theorem passes {levels : Nat} (hlevels : waiting.length + levels = linkDepth) :
    Passes t ⟨done, names, waiting⟩ [] (resolveFrom t (resolveNames t levels) done names) := by
  induction levels generalizing done names waiting with
  | zero =>
    refine passes_of_links fun done name target rest hup hlook => ?_
    have hstep : advance t ⟨done, name :: rest, waiting⟩ = _ := advance_link hup hlook
    rw [if_neg (by omega)] at hstep
    exact .fail hstep
  | succ levels ih =>
    refine passes_of_links fun done name target rest hup hlook => ?_
    have hstep : advance t ⟨done, name :: rest, waiting⟩ = _ := advance_link hup hlook
    rw [if_pos (by omega)] at hstep
    -- the target is a path of its own, and the names behind the link wait for it
    have htarget : Passes t ⟨[], absolute done target, rest :: waiting⟩ []
        (resolveNames t (levels + 1) (absolute done target)) :=
      ih (by rw [List.length_cons]; omega)
    refine ⟨fun q hq => ?_, fun e he => ?_⟩
    · have hback : advance t ⟨q, [], rest :: waiting⟩ = .inl ⟨q, rest, waiting⟩ := rfl
      exact .cons hstep ((htarget.ok q hq).tail hback)
    · exact .after (Relation.ReflTransGen.single hstep) (htarget.error e he)

/-- **The machine halts on every path**, with what its names resolve to. -/
theorem halts_start (t : FileTree) (names : List String) :
    Halts t (start names) (resolveNames t (linkDepth + 1) names) := by
  have hpasses : Passes t (start names) [] (resolveNames t (linkDepth + 1) names) :=
    passes (Nat.zero_add linkDepth)
  cases hresult : resolveNames t (linkDepth + 1) names with
  | ok q => exact ⟨_, hpasses.ok q hresult, rfl⟩
  | error e => exact hpasses.error e hresult

end Visit

end Guard

end Turnstile
