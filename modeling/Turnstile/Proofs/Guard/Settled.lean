import Turnstile.Proofs.Files.Walk
import Mathlib.Data.List.Induction
/-!
# Resolved places are settled

The guard appends a name only after looking at what it leads to, so of
every place above a resolved one, and of that place itself, it has seen
that it is no link: the place is `Settled`. That is the invariant of the
whole resolution (`resolve_settled`), whatever links it followed on the
way, and it is enough to make a second resolution change nothing
(`resolve_text_of_settled`).
-/

namespace Turnstile

namespace Guard

variable {t : FileTree} {cwd done p : AbsPath} {names : List String}
variable {expand : List String → Except FileFailure AbsPath}

/-- Nothing is left to resolve: the names lead down, and no place on the
way is a link. -/
structure Settled (t : FileTree) (p : AbsPath) : Prop where
  direct : p.Direct
  /-- Looking at a place on the way, or at the end of it, shows no link. -/
  noLinkAt : ∀ q name, q ++ [name] <+: p → t.NoLinkAt (q ++ [name])

/-- The root is settled. -/
theorem settled_root (t : FileTree) : Settled t [] where
  direct name h := by cases h
  noLinkAt q name h := by simp at h

/-- What is above a settled place is settled. -/
theorem Settled.of_prefix (hp : Settled t p) {q : AbsPath} (h : q <+: p) : Settled t q where
  direct := hp.direct.of_prefix h
  noLinkAt r name hr := hp.noLinkAt r name (hr.trans h)

/-- **One step down** from a settled place, past something that is seen to
be no link, leads to a settled place. -/
theorem Settled.append_singleton (hp : Settled t p) {name : String}
    (hname : Path.IsName name ∧ name ≠ "..") (hlook : t.NoLinkAt (p ++ [name])) :
    Settled t (p ++ [name]) where
  direct := AbsPath.direct_append.mpr ⟨hp.direct, fun n hn => by rwa [List.mem_singleton.mp hn]⟩
  noLinkAt q last hq := by
    rcases List.prefix_concat_iff.mp hq with heq | hpre
    · rwa [heq]
    · exact hp.noLinkAt q last hpre

/-- So the way to a settled place meets no link. -/
theorem Settled.linkFree (hp : Settled t p) : t.LinkFree [] p := by
  induction p using List.reverseRecOn with
  | nil => trivial
  | append_singleton init last ih =>
    have hinit : Settled t init := hp.of_prefix (List.prefix_append init [last])
    exact (ih hinit).append_singleton hp.direct (hp.noLinkAt init last List.prefix_rfl)

/-! ## The invariant of the resolution -/

/-- **Resolving names keeps the place reached settled**, as long as what
links lead to is settled. -/
theorem resolveFrom_settled
    (hexpand : ∀ ns q, AbsPath.Named ns → expand ns = .ok q → Settled t q)
    (hnames : AbsPath.Named names) (hdone : Settled t done)
    (h : resolveFrom t expand done names = .ok p) : Settled t p := by
  induction names generalizing done with
  | nil =>
    rw [resolveFrom, Except.ok.injEq] at h
    rwa [← h]
  | cons name rest ih =>
    have hname : Path.IsName name := hnames name (List.mem_cons_self ..)
    have hrest : AbsPath.Named rest := fun n hn => hnames n (List.mem_cons_of_mem _ hn)
    rw [resolveFrom] at h
    by_cases hup : name = ".."
    · rw [if_pos hup] at h
      exact ih hrest (hdone.of_prefix (List.dropLast_prefix done)) h
    · rw [if_neg hup] at h
      have hdown (hlook : t.NoLinkAt (done ++ [name])) : Settled t (done ++ [name]) :=
        hdone.append_singleton ⟨hname, hup⟩ hlook
      split at h
      · -- a link: what it leads to is read where the link is
        rename_i target _
        split at h
        · rename_i place hplace
          have hread := named_absolute hdone.direct.named target
          exact ih hrest (hexpand _ place hread hplace) h
        · cases h
      · rename_i entry hlink hentry
        refine ih hrest (hdown (Or.inr ⟨entry, hentry, ?_⟩)) h
        cases entry with
        | link target => exact absurd rfl (hlink target)
        | _ => rfl
      · rename_i hmissing
        exact ih hrest (hdown (Or.inl hmissing)) h
      · cases h

/-- **However deep links are nested**, names resolve to a settled place. -/
theorem resolveNames_settled {levels : Nat} (hnames : AbsPath.Named names)
    (h : resolveNames t levels names = .ok p) : Settled t p := by
  induction levels generalizing names p with
  | zero => cases h
  | succ levels ih =>
    exact resolveFrom_settled (fun _ _ hns hq => ih hns hq) hnames (settled_root t) h

/-- **A resolved path is settled.** -/
theorem resolve_settled (hcwd : cwd.Named) {path : String} (h : resolve t cwd path = .ok p) :
    Settled t p := by
  rw [resolve] at h
  split at h
  · rename_i q hq
    rw [← Except.ok.inj h]
    exact resolveNames_settled (named_absolute hcwd path) hq
  · cases h

/-! ## Resolving again -/

/-- Below a settled place, names that keep it settled are appended. -/
theorem resolveFrom_of_settled (h : Settled t (done ++ names)) :
    resolveFrom t expand done names = .ok (done ++ names) := by
  induction names generalizing done with
  | nil => rw [resolveFrom, List.append_nil]
  | cons name rest ih =>
    have hup : name ≠ ".." := (h.direct name (by simp)).2
    have hassoc : done ++ name :: rest = done ++ [name] ++ rest := by simp
    have hlook : t.NoLinkAt (done ++ [name]) := by
      refine h.noLinkAt done name ?_
      rw [hassoc]
      exact List.prefix_append _ rest
    rw [hassoc] at h ⊢
    rw [resolveFrom, if_neg hup]
    rcases hlook with hmissing | ⟨entry, hentry, hlink⟩
    · rw [hmissing]
      exact ih h
    · rw [hentry]
      cases entry with
      | link target => cases hlink
      | _ => exact ih h

/-- **A settled place resolves to itself**, from wherever it is read. -/
theorem resolve_text_of_settled (hp : Settled t p) (cwd : AbsPath) :
    resolve t cwd p.text = .ok p := by
  have hbelow : Settled t ([] ++ p) := hp
  have hnames : resolveNames t (linkDepth + 1) p = .ok p := resolveFrom_of_settled hbelow
  rw [resolve, absolute_text hp.direct.named, hnames]

end Guard

end Turnstile
