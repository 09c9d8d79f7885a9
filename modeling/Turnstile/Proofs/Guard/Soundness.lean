import Turnstile.Proofs.Guard.Settled
/-!
# What the guard lets through

Membership in a root is decided on resolved places (`rootOf?_eq_some`,
`rootOf?_eq_none_iff`), so what a check returns says all there is to know
of the place: it is settled, it lies where it may, and it lies nowhere
that is protected. The second of two checks resolves the first one's
answer again; a settled place resolves to itself, so the two speak of one
place (`place_of_checkWritable`).
-/

namespace Turnstile

namespace Guard

variable {t : FileTree} {cwd p : AbsPath} {roots : List String}

/-- The place is the root, once that is resolved, or lies beneath it. -/
def LiesIn (t : FileTree) (cwd p : AbsPath) (root : String) : Prop :=
  ∃ r, resolve t cwd root = .ok r ∧ r <+: p

/-- The root resolves, and the place is neither it nor beneath it. -/
def LiesOutside (t : FileTree) (cwd p : AbsPath) (root : String) : Prop :=
  ∃ r, resolve t cwd root = .ok r ∧ ¬ r <+: p

theorem LiesOutside.not_liesIn {root : String} (h : LiesOutside t cwd p root) :
    ¬ LiesIn t cwd p root := by
  rintro ⟨r, hr, hpre⟩
  obtain ⟨r', hr', hnot⟩ := h
  rw [hr, Except.ok.injEq] at hr'
  exact hnot (hr' ▸ hpre)

/-! ## Looking for a root -/

/-- One root looked at, then the others. -/
theorem rootOf?_cons (root : String) :
    rootOf? t cwd p (root :: roots) =
      match resolve t cwd root with
      | .error e => .error e
      | .ok r => if r <+: p then .ok (some root) else rootOf? t cwd p roots := by
  rw [rootOf?]
  cases resolve t cwd root with
  | error e => rfl
  | ok r =>
    change (if p.within r = true then _ else _) = _
    simp only [AbsPath.within, List.isPrefixOf_iff_prefix]
    split <;> rfl

/-- **A root that is found holds the place.** -/
theorem rootOf?_eq_some {root : String} (h : rootOf? t cwd p roots = .ok (some root)) :
    root ∈ roots ∧ LiesIn t cwd p root := by
  induction roots with
  | nil => cases h
  | cons first rest ih =>
    rw [rootOf?_cons] at h
    split at h
    · cases h
    · rename_i r hr
      split at h
      · rename_i hpre
        cases h
        exact ⟨List.mem_cons_self .., r, hr, hpre⟩
      · obtain ⟨hmem, hin⟩ := ih h
        exact ⟨List.mem_cons_of_mem _ hmem, hin⟩

/-- **None is found exactly where every root resolves to somewhere else.** -/
theorem rootOf?_eq_none_iff :
    rootOf? t cwd p roots = .ok none ↔ ∀ root ∈ roots, LiesOutside t cwd p root := by
  induction roots with
  | nil => simp [rootOf?]
  | cons first rest ih =>
    rw [rootOf?_cons, List.forall_mem_cons, ← ih]
    constructor
    · intro h
      split at h
      · cases h
      · rename_i r hr
        split at h
        · cases h
        · rename_i hpre
          exact ⟨⟨r, hr, hpre⟩, h⟩
    · rintro ⟨⟨r, hr, hpre⟩, h⟩
      rw [hr]
      simp only [if_neg hpre]
      exact h

/-! ## The two checks -/

/-- Without roots there is no restriction. -/
theorem checkAllowed_nil (path : CheckedPath) : checkAllowed t cwd [] path = .ok path := rfl

/-- Without roots nothing is protected. -/
theorem checkWritable_nil (path : CheckedPath) : checkWritable t cwd [] path = .ok path := rfl

/-- The first check: resolve, then look for a root. -/
theorem checkAllowed_eq (hne : roots ≠ []) (path : CheckedPath) :
    checkAllowed t cwd roots path =
      match resolve t cwd path.text with
      | .error e => .error e
      | .ok p =>
        match rootOf? t cwd p roots with
        | .error e => .error e
        | .ok (some _) => .ok (.resolved p)
        | .ok none => .error (.outsideRoots p roots) := by
  rw [checkAllowed, if_neg (by simpa using hne)]
  cases resolve t cwd path.text with
  | error e => rfl
  | ok p =>
    dsimp only
    change (rootOf? t cwd p roots >>= _) = _
    rcases rootOf? t cwd p roots with e | (- | root) <;> rfl

/-- The second check: the same, with the answers the other way round. -/
theorem checkWritable_eq (hne : roots ≠ []) (path : CheckedPath) :
    checkWritable t cwd roots path =
      match resolve t cwd path.text with
      | .error e => .error e
      | .ok p =>
        match rootOf? t cwd p roots with
        | .error e => .error e
        | .ok (some root) => .error (.readOnly p root)
        | .ok none => .ok (.resolved p) := by
  rw [checkWritable, if_neg (by simpa using hne)]
  cases resolve t cwd path.text with
  | error e => rfl
  | ok p =>
    dsimp only
    change (rootOf? t cwd p roots >>= _) = _
    rcases rootOf? t cwd p roots with e | (- | root) <;> rfl

/-- **What the first check lets through** is where the path leads, and
lies in a root. -/
theorem place_of_checkAllowed (hne : roots ≠ []) {path q : CheckedPath}
    (h : checkAllowed t cwd roots path = .ok q) :
    ∃ p, q = .resolved p ∧ resolve t cwd path.text = .ok p ∧
      ∃ root ∈ roots, LiesIn t cwd p root := by
  rw [checkAllowed_eq hne] at h
  split at h
  · cases h
  · rename_i p hp
    split at h
    · cases h
    · rename_i root hroot
      obtain ⟨hmem, hin⟩ := rootOf?_eq_some hroot
      exact ⟨p, (Except.ok.inj h).symm, hp, root, hmem, hin⟩
    · cases h

/-- **What the second check lets through** is where the path leads, and
lies outside every root. -/
theorem place_of_checkWritable (hne : roots ≠ []) {path q : CheckedPath}
    (h : checkWritable t cwd roots path = .ok q) :
    ∃ p, q = .resolved p ∧ resolve t cwd path.text = .ok p ∧
      ∀ root ∈ roots, LiesOutside t cwd p root := by
  rw [checkWritable_eq hne] at h
  split at h
  · cases h
  · rename_i p hp
    split at h
    · cases h
    · cases h
    · rename_i hroot
      exact ⟨p, (Except.ok.inj h).symm, hp, rootOf?_eq_none_iff.mp hroot⟩

/-- On a settled place the second check only looks at the roots. -/
theorem toBool_checkWritable_iff (hp : Settled t p) :
    (checkWritable t cwd roots (.resolved p)).toBool = true ↔
      ∀ root ∈ roots, LiesOutside t cwd p root := by
  by_cases hne : roots = []
  · subst hne
    simp [checkWritable_nil, Except.toBool]
  · rw [checkWritable_eq hne, CheckedPath.text, resolve_text_of_settled hp,
      ← rootOf?_eq_none_iff]
    dsimp only
    rcases rootOf? t cwd p roots with e | (- | root) <;> simp [Except.toBool]

/-! ## What a check promises -/

/-- A path that leads to one place only, in whatever way it is followed. -/
structure Unambiguous (t : FileTree) (p : AbsPath) : Prop where
  absolute : Path.isAbsolute p.text = true
  /-- Its names lead down: there is no dot and no pair of dots among them. -/
  names : Path.names p.text = p ∧ "." ∉ p ∧ ".." ∉ p
  /-- Neither it nor anything above it looks like a link. -/
  lstat : ∀ r, r <+: p → ∀ target, t.lstat r ≠ .ok (.link target)
  /-- Nor is there a link in a tree whose places lie in directories. -/
  entry : t.Rooted → ∀ r, r <+: p → ∀ target, t.entry? r ≠ some (.link target)
  /-- Where it leads depends neither on the directory it is opened from
  nor on whether links are followed. -/
  locate : ∀ follow dir, t.locate follow dir p.text = t.locate false [] p.text
  /-- Opening it reaches that place and no other. -/
  place : ∀ follow dir place, t.locate follow dir p.text = .ok place → place.path = p

/-- **A settled place is unambiguous.** -/
theorem Settled.unambiguous (hp : Settled t p) : Unambiguous t p where
  absolute := p.isAbsolute_text
  names := by
    refine ⟨AbsPath.names_text hp.direct.named, fun h => ?_, fun h => ?_⟩
    · exact (hp.direct "." h).1.2.1 rfl
    · exact (hp.direct ".." h).2 rfl
  lstat r hr target := by
    have hr := hp.of_prefix hr
    exact hr.linkFree.lstat_ne_link hr.direct target
  entry ht r hr target := by
    by_cases hne : r = []
    · subst hne
      simp [FileTree.entry?]
    · exact (hp.of_prefix hr).linkFree.entry_ne_link ht hne target
  locate follow dir := FileTree.locate_eq_of_linkFree hp.direct hp.linkFree follow dir
  place _ _ _ hl := (FileTree.path_of_locate hp.direct hp.linkFree hl).1

/-- Of the read check: the place is settled and lies in an allowed root. -/
theorem settled_of_checkRead (hcwd : cwd.Named) {policy : Policy} {path : String}
    {q : CheckedPath} (hne : policy.allowedPaths ≠ [])
    (h : checkRead t cwd policy path = .ok q) :
    ∃ p, q = .resolved p ∧ Settled t p ∧ ∃ root ∈ policy.allowedPaths, LiesIn t cwd p root := by
  obtain ⟨p, rfl, hres, hin⟩ := place_of_checkAllowed hne h
  exact ⟨p, rfl, resolve_settled hcwd hres, hin⟩

/-- The write check is the read check and then the second one. -/
theorem checkWrite_eq_ok {policy : Policy} {path : String} {q : CheckedPath}
    (h : checkWrite t cwd policy path = .ok q) :
    ∃ allowed, checkRead t cwd policy path = .ok allowed ∧
      checkWritable t cwd policy.readOnlyPaths allowed = .ok q := by
  rw [checkWrite] at h
  cases hread : checkRead t cwd policy path with
  | error e => rw [hread] at h; cases h
  | ok allowed =>
    rw [hread] at h
    exact ⟨allowed, rfl, h⟩

/-- Of the write check: where anything restricts it, the place is settled,
in an allowed root if there are any, and outside every read-only one. -/
theorem settled_of_checkWrite (hcwd : cwd.Named) {policy : Policy} {path : String}
    {q : CheckedPath} (hne : policy.allowedPaths ≠ [] ∨ policy.readOnlyPaths ≠ [])
    (h : checkWrite t cwd policy path = .ok q) :
    ∃ p, q = .resolved p ∧ Settled t p ∧
      (policy.allowedPaths ≠ [] → ∃ root ∈ policy.allowedPaths, LiesIn t cwd p root) ∧
      ∀ root ∈ policy.readOnlyPaths, LiesOutside t cwd p root := by
  obtain ⟨allowed, hread, hwrite⟩ := checkWrite_eq_ok h
  by_cases hallowed : policy.allowedPaths = []
  · have hro : policy.readOnlyPaths ≠ [] := hne.resolve_left fun h => h hallowed
    obtain ⟨p, rfl, hres, hout⟩ := place_of_checkWritable hro hwrite
    rw [checkRead, hallowed, checkAllowed_nil] at hread
    rw [← Except.ok.inj hread] at hres
    exact ⟨p, rfl, resolve_settled hcwd hres, fun h => absurd hallowed h, hout⟩
  · obtain ⟨p, rfl, hp, hin⟩ := settled_of_checkRead hcwd hallowed hread
    by_cases hro : policy.readOnlyPaths = []
    · rw [hro, checkWritable_nil] at hwrite
      exact ⟨p, (Except.ok.inj hwrite).symm, hp, fun _ => hin, by simp [hro]⟩
    · -- the second check resolves a settled place, and so speaks of the same one
      obtain ⟨p', rfl, hres, hout⟩ := place_of_checkWritable hro hwrite
      rw [CheckedPath.text, resolve_text_of_settled hp, Except.ok.injEq] at hres
      subst hres
      exact ⟨p, rfl, hp, fun _ => hin, hout⟩

/-- **The guard is sound.** What it lets be written leads to one place in
whatever way it is followed; that place lies in an allowed root where
there are any, and in no read-only root. What it lets be read leads to
one place as well, in an allowed root. -/
theorem unambiguous_of_check (t : FileTree) (cwd : AbsPath) (hcwd : cwd.Named)
    (policy : Policy) (path : String) (q : CheckedPath) :
    (policy.allowedPaths ≠ [] ∨ policy.readOnlyPaths ≠ [] →
      checkWrite t cwd policy path = .ok q →
      ∃ p, q = .resolved p ∧ Unambiguous t p ∧
        (policy.allowedPaths ≠ [] → ∃ root ∈ policy.allowedPaths, LiesIn t cwd p root) ∧
        ∀ root ∈ policy.readOnlyPaths, LiesOutside t cwd p root) ∧
    (policy.allowedPaths ≠ [] →
      checkRead t cwd policy path = .ok q →
      ∃ p, q = .resolved p ∧ Unambiguous t p ∧
        ∃ root ∈ policy.allowedPaths, LiesIn t cwd p root) := by
  constructor
  · intro hne h
    obtain ⟨p, hq, hp, hin, hout⟩ := settled_of_checkWrite hcwd hne h
    exact ⟨p, hq, hp.unambiguous, hin, hout⟩
  · intro hne h
    obtain ⟨p, hq, hp, hin⟩ := settled_of_checkRead hcwd hne h
    exact ⟨p, hq, hp.unambiguous, hin⟩

/-- A box with a link out of a directory and an absolute link back in. -/
def knottedTree : FileTree where
  entries := [(["box"], .directory), (["box", "back"], .link "/box/in"),
    (["box", "docs"], .directory), (["box", "in"], .directory),
    (["box", "in", "link"], .link "../docs")]

/-- The box may be touched, its documents not written. -/
def knottedPolicy : Policy :=
  { Policy.default with allowedPaths := ["/box"], readOnlyPaths := ["/box/docs"] }

/-- Through both links, up from the second one's target and on to a file
that is not there yet. -/
theorem unambiguous_of_check_knotted :
    checkWrite knottedTree ["box"] knottedPolicy "back/./link/../new.txt" =
      .ok (.resolved ["box", "new.txt"]) ∧
    Unambiguous knottedTree ["box", "new.txt"] ∧
    LiesOutside knottedTree ["box"] ["box", "new.txt"] "/box/docs" := by
  have hcwd : AbsPath.Named ["box"] := by simp [AbsPath.Named, Path.IsName]
  have hcheck : checkWrite knottedTree ["box"] knottedPolicy "back/./link/../new.txt" =
      .ok (.resolved ["box", "new.txt"]) := by decide +kernel
  obtain ⟨p, hq, hp, -, hout⟩ :=
    (unambiguous_of_check knottedTree ["box"] hcwd knottedPolicy _ _).1
      (Or.inl (by simp [knottedPolicy])) hcheck
  cases hq
  exact ⟨hcheck, hp, hout "/box/docs" (by simp [knottedPolicy])⟩

end Guard

end Turnstile
