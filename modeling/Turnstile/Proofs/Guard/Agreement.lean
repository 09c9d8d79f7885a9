import Turnstile.Proofs.Files.Route
import Turnstile.Proofs.Guard.Soundness
import Turnstile.Proofs.Keyed
import Mathlib.Data.List.Infix
/-!
# The guard agrees with the system

The guard resolves a link's target from the root before it goes on with
the names behind the link, and counts how deep links are nested; the
system goes on from the link's directory with one list of names, and
counts the links. A route bears both readings, and along it the guard's
answer is the system's (`resolveFrom_route`): every directory a route
reaches is one the guard can walk down to from the root (`Clear`), so
starting over makes no difference.

One thing does. The guard looks at places by their full text, and a text
can be longer than the system takes, which a walk that goes on from a
directory never notices. The agreement holds exactly where every place
met can be named (`resolve_agrees`), and a directory deep enough shows
that it does not hold elsewhere (`resolve_ne_in_burrow`).
-/

namespace Turnstile

namespace Guard

variable {t : FileTree} {cwd done p : AbsPath} {names more : List String} {name : String}
variable {expand : List String → Except FileFailure AbsPath}

/-! ## Resolving in parts -/

/-- Names resolved one after another are resolved in parts. -/
theorem resolveFrom_append :
    resolveFrom t expand done (names ++ more) =
      match resolveFrom t expand done names with
      | .ok mid => resolveFrom t expand mid more
      | .error e => .error e := by
  induction names generalizing done with
  | nil => rfl
  | cons name rest ih =>
    rw [List.cons_append, resolveFrom, resolveFrom]
    by_cases hup : name = ".."
    · rw [if_pos hup, if_pos hup]
      exact ih
    · rw [if_neg hup, if_neg hup]
      split
      · split
        · exact ih
        · rfl
      · exact ih
      · exact ih
      · rfl

/-- A name that leads down to something that is no link is appended. -/
theorem resolveFrom_down (hup : name ≠ "..") {entry : Entry}
    (hlook : t.lstat (done ++ [name]) = .ok entry) (hlink : entry.isLink = false) :
    resolveFrom t expand done (name :: names) =
      resolveFrom t expand (done ++ [name]) names := by
  rw [resolveFrom, if_neg hup, hlook]
  cases entry with
  | link target => cases hlink
  | _ => rfl

/-- A link is replaced by what it leads to. -/
theorem resolveFrom_link (hup : name ≠ "..") {target : String}
    (hlook : t.lstat (done ++ [name]) = .ok (.link target)) :
    resolveFrom t expand done (name :: names) =
      match expand (absolute done target) with
      | .ok mid => resolveFrom t expand mid names
      | .error e => .error e := by
  cases hmid : expand (absolute done target) with
  | ok mid => simp [resolveFrom, hup, hlook, hmid]
  | error e => simp [resolveFrom, hup, hlook, hmid]

/-- A place that cannot be named cannot be resolved. -/
theorem resolveFrom_of_not_nameable (hdone : done.Direct)
    (hname : Path.IsName name ∧ name ≠ "..") (h : ¬ (done ++ [name]).Nameable) :
    ∃ e, resolveFrom t expand done (name :: names) = .error e := by
  have hdirect : AbsPath.Direct (done ++ [name]) :=
    AbsPath.direct_append.mpr ⟨hdone, fun n hn => by rwa [List.mem_singleton.mp hn]⟩
  obtain ⟨e, hlook, hne⟩ := t.lstat_of_not_nameable hdirect h
  refine ⟨e, ?_⟩
  rw [resolveFrom, if_neg hname.2, hlook]
  cases e with
  | notFound => exact absurd rfl hne
  | _ => rfl

/-! ## Directories that can be walked down to -/

/-- A directory a resolution can start from, and whose text the system
takes. -/
structure Clear (t : FileTree) (p : AbsPath) : Prop extends t.Standing p where
  nameable : p.Nameable

theorem clear_root (t : FileTree) : Clear t [] := ⟨t.standing_root, AbsPath.nameable_root⟩

theorem Clear.of_prefix (hp : Clear t p) {q : AbsPath} (h : q <+: p) : Clear t q where
  toStanding := hp.toStanding.of_prefix h
  nameable := hp.nameable.of_prefix h

theorem Clear.start (hp : Clear t p) (path : String) : Clear t (Path.start p path) := by
  rw [Path.start]
  split
  · exact clear_root t
  · exact hp

/-- Every place on the way to it is seen to be a directory. -/
theorem Clear.settled (hp : Clear t p) : Settled t p where
  direct := hp.direct
  noLinkAt q name hq := by
    have hdir : t.entry? (q ++ [name]) = some .directory := hp.directory _ hq
    have hclear : Clear t (q ++ [name]) := hp.of_prefix hq
    have hname := hclear.direct name (by simp)
    have hsize := hclear.fits name (by simp)
    have habove : Clear t q := hclear.of_prefix (List.prefix_append q [name])
    exact Or.inr ⟨.directory,
      habove.lstat_append_singleton hname hsize hclear.nameable hdir, rfl⟩

/-- **Starting over makes no difference**: names below it may as well be
resolved from the root. -/
theorem Clear.resolveFrom_root (hp : Clear t p) :
    resolveFrom t expand [] (p ++ names) = resolveFrom t expand p names := by
  have hsettled : Settled t ([] ++ p) := hp.settled
  rw [resolveFrom_append, resolveFrom_of_settled hsettled]
  rfl

/-- A target read there is resolved there, or at the root. -/
theorem Clear.resolveFrom_absolute (hp : Clear t p) (path : String) :
    resolveFrom t expand [] (absolute p path) =
      resolveFrom t expand (Path.start p path) (Guard.names path) := by
  rw [absolute, Path.start]
  split
  · rfl
  · exact hp.resolveFrom_root

/-- **A directory whose text cannot be written cannot be resolved**, though
a process may be in it. -/
theorem nameable_of_resolveFrom (hp : t.Standing p) {q : AbsPath}
    (h : resolveFrom t expand [] p = .ok q) : p.Nameable := by
  induction p using List.reverseRecOn generalizing q with
  | nil => exact AbsPath.nameable_root
  | append_singleton init last ih =>
    have hinit : t.Standing init := hp.of_prefix (List.prefix_append init [last])
    rw [resolveFrom_append] at h
    split at h
    · rename_i mid hmid
      have hclear : Clear t init := ⟨hinit, ih hinit hmid⟩
      have hsettled : Settled t ([] ++ init) := hclear.settled
      rw [resolveFrom_of_settled hsettled, Except.ok.injEq] at hmid
      subst hmid
      by_contra hlong
      have hlast := hp.direct last (by simp)
      obtain ⟨e, he⟩ := resolveFrom_of_not_nameable hinit.direct hlast hlong
      rw [List.nil_append, he] at h
      cases h
    · cases h

/-! ## Along a route -/

/-- A route from a clear directory whose places can all be named ends
nowhere but in a clear directory, if it ends in a directory. -/
theorem Clear.of_route {n : Nat} {ps : List AbsPath} {a b : AbsPath × Entry}
    (h : t.Route n ps a names b) (ha : a.2 = .directory → Clear t a.1)
    (hps : ∀ p ∈ ps, p.Nameable) : b.2 = .directory → Clear t b.1 := by
  induction h with
  | arrived a => exact ha
  | stay _ ih => exact ih ha hps
  | up _ ih =>
    have hhere := ha rfl
    exact ih (fun _ => hhere.of_prefix (List.dropLast_prefix _)) hps
  | down hname hsize he hlink _ ih =>
    obtain ⟨hfirst, hrest⟩ := List.forall_mem_cons.mp hps
    refine ih (fun hdir => ⟨?_, hfirst⟩) hrest
    dsimp only at hdir
    exact (ha rfl).append_singleton hname hsize (hdir ▸ he)
  | link hname hsize he _ _ ihtarget ihrest =>
    obtain ⟨_, hboth⟩ := List.forall_mem_cons.mp hps
    obtain ⟨htarget, hrest⟩ := List.forall_mem_append.mp hboth
    have hstart := (ha rfl).start
    exact ihrest (ihtarget (fun _ => hstart _) htarget) hrest

/-- **Along a route the guard's answer is the system's**, exactly if every
place met can be named. The nesting of links is at most their number. -/
theorem resolveFrom_route {n levels : Nat} {ps : List AbsPath} {a b : AbsPath × Entry}
    (h : t.Route n ps a names b) (ha : a.2 = .directory → Clear t a.1) (hn : n ≤ levels)
    (q : AbsPath) :
    resolveFrom t (resolveNames t levels) a.1 (names.filter (· != ".")) = .ok q ↔
      q = b.1 ∧ ∀ p ∈ ps, p.Nameable := by
  induction h generalizing levels q with
  | arrived a => simp [resolveFrom, eq_comm]
  | stay _ ih =>
    rw [List.filter_cons_of_neg (by decide)]
    exact ih ha hn q
  | up _ ih =>
    rw [List.filter_cons_of_pos (by decide), resolveFrom, if_pos rfl]
    have hhere := ha rfl
    exact ih (fun _ => hhere.of_prefix (List.dropLast_prefix _)) hn q
  | @down n ps here name rest entry b hname hsize he hlink _ ih =>
    rw [List.filter_cons_of_pos (by simpa using hname.1.2.1), List.forall_mem_cons]
    have hhere : Clear t here := ha rfl
    by_cases hnameable : (here ++ [name]).Nameable
    · have hlook := hhere.lstat_append_singleton hname hsize hnameable he
      rw [resolveFrom_down hname.2 hlook hlink]
      have hnext : entry = .directory → Clear t (here ++ [name]) := fun hdir =>
        ⟨hhere.append_singleton hname hsize (hdir ▸ he), hnameable⟩
      rw [ih hnext hn q]
      simp [hnameable]
    · obtain ⟨e, herror⟩ := resolveFrom_of_not_nameable hhere.direct hname hnameable
      rw [herror]
      simp [hnameable]
  | @link n m ps qs here name target rest mid b hname hsize he htarget hrest ihtarget ihrest =>
    rw [List.filter_cons_of_pos (by simpa using hname.1.2.1), List.forall_mem_cons,
      List.forall_mem_append]
    have hhere : Clear t here := ha rfl
    by_cases hnameable : (here ++ [name]).Nameable
    · have hlook := hhere.lstat_append_singleton hname hsize hnameable he
      obtain ⟨l, rfl⟩ : ∃ l, levels = l + 1 := ⟨levels - 1, by omega⟩
      have hstart : Clear t (Path.start here target) := hhere.start target
      -- the target, resolved from the root with one level less, ends where the route does
      have hexpand (q : AbsPath) :
          resolveNames t (l + 1) (absolute here target) = .ok q ↔
            q = mid.1 ∧ ∀ p ∈ ps, p.Nameable := by
        rw [resolveNames, hhere.resolveFrom_absolute, ← Path.filter_steps]
        exact ihtarget (fun _ => hstart) (by omega) q
      rw [resolveFrom_link hname.2 hlook]
      cases hmid : resolveNames t (l + 1) (absolute here target) with
      | error e =>
        have hnot : ¬ ∀ p ∈ ps, p.Nameable := by
          intro hps
          have := (hexpand mid.1).mpr ⟨rfl, hps⟩
          rw [hmid] at this
          cases this
        simp [hnot]
      | ok place =>
        obtain ⟨rfl, hps⟩ := (hexpand place).mp hmid
        have hclear : mid.2 = .directory → Clear t mid.1 :=
          Clear.of_route htarget (fun _ => hstart) hps
        dsimp only
        rw [ihrest hclear (by omega) q]
        simp only [hnameable, true_and]
        exact and_congr_right fun _ => (and_iff_right hps).symm
    · obtain ⟨e, herror⟩ := resolveFrom_of_not_nameable hhere.direct hname hnameable
      rw [herror]
      simp [hnameable]

/-! ## Agreement -/

/-- Resolving a path is resolving its names from the root. -/
theorem resolve_eq_ok_iff {path : String} {q : AbsPath} :
    resolve t cwd path = .ok q ↔
      resolveFrom t (resolveNames t linkDepth) [] (absolute cwd path) = .ok q := by
  rw [resolve, resolveNames]
  split <;> rename_i h <;> rw [h] <;> simp

/-- What the guard reads in a directory, it reads there only if that
directory can be named; an absolute path it reads anywhere. -/
theorem resolve_eq_ok_iff_of_standing (hcwd : t.Standing cwd) {path : String} {q : AbsPath} :
    resolve t cwd path = .ok q ↔
      (Path.start cwd path).Nameable ∧
        resolveFrom t (resolveNames t linkDepth) (Path.start cwd path) (Guard.names path) =
          .ok q := by
  rw [resolve_eq_ok_iff, absolute, Path.start]
  by_cases habs : Path.isAbsolute path = true
  · simp [habs, AbsPath.nameable_root]
  · simp only [habs, Bool.false_eq_true, ↓reduceIte]
    constructor
    · intro h
      have hnameable : cwd.Nameable := by
        rw [resolveFrom_append] at h
        split at h
        · rename_i mid hmid
          exact nameable_of_resolveFrom hcwd hmid
        · cases h
      have hclear : Clear t cwd := ⟨hcwd, hnameable⟩
      exact ⟨hnameable, hclear.resolveFrom_root.symm.trans h⟩
    · rintro ⟨hnameable, h⟩
      have hclear : Clear t cwd := ⟨hcwd, hnameable⟩
      exact hclear.resolveFrom_root.trans h

/-- **Where the system finds something, the guard answers the same place**,
or fails because some place met cannot be named. -/
theorem resolve_of_stat (hcwd : t.Standing cwd) {path : String} {place : AbsPath}
    {entry : Entry} (h : t.stat cwd path = .ok (place, entry)) (q : AbsPath) :
    resolve t cwd path = .ok q ↔ q = place ∧ ∀ p ∈ t.met cwd path, p.Nameable := by
  obtain ⟨n, ps, hn, hmet, hroute⟩ := t.route_of_stat h
  rw [resolve_eq_ok_iff_of_standing hcwd, hmet, List.forall_mem_cons]
  by_cases hstart : (Path.start cwd path).Nameable
  · have hdepth : n ≤ linkDepth := hn
    have hclear : Clear t (Path.start cwd path) := ⟨hcwd.start path, hstart⟩
    have hresolve := resolveFrom_route hroute (fun _ => hclear) hdepth q
    rw [Path.filter_steps] at hresolve
    simp only [hstart, true_and]
    exact hresolve
  · simp [hstart]

/-- **The guard agrees with the system, and with itself.** Where the
system finds something, the guard answers that place, unless the system
met a place whose path is no text it would take: then the guard fails.
And whatever the guard answered, it answers again when it is given that
answer, in any directory. -/
theorem resolve_agrees (t : FileTree) (cwd : AbsPath) (hcwd : t.Standing cwd) (path : String) :
    (∀ place entry, t.stat cwd path = .ok (place, entry) →
      ∀ q, resolve t cwd path = .ok q ↔ q = place ∧ ∀ p ∈ t.met cwd path, p.Nameable) ∧
    (∀ q, resolve t cwd path = .ok q → ∀ dir, resolve t dir q.text = .ok q) := by
  constructor
  · intro place entry h q
    exact resolve_of_stat hcwd h q
  · intro q h dir
    have hsettled : Settled t q := resolve_settled hcwd.direct.named h
    exact resolve_text_of_settled hsettled dir

/-- Through two links and up from the second one's target. -/
theorem resolve_agrees_knotted :
    knottedTree.Standing ["box"] ∧
    knottedTree.stat ["box"] "back/./link/../in" = .ok (["box", "in"], .directory) ∧
    resolve knottedTree ["box"] "back/./link/../in" = .ok ["box", "in"] ∧
    resolve knottedTree [] "/box/in" = .ok ["box", "in"] := by
  have hcwd : knottedTree.Standing ["box"] := by
    refine (knottedTree.standing_root).append_singleton ?_ ?_ ?_
    · simp [Path.IsName]
    · decide
    · decide
  have hstat : knottedTree.stat ["box"] "back/./link/../in" = .ok (["box", "in"], .directory) := by
    decide +kernel
  have hmet : ∀ p ∈ knottedTree.met ["box"] "back/./link/../in", p.Nameable := by
    decide +kernel
  have hagrees := resolve_agrees knottedTree ["box"] hcwd "back/./link/../in"
  have hresolve := (hagrees.1 _ _ hstat ["box", "in"]).mpr ⟨rfl, hmet⟩
  exact ⟨hcwd, hstat, hresolve, hagrees.2 _ hresolve []⟩

/-! ## Where it does not -/

/-- A name as long as one may be. -/
def longName : String := String.ofList (List.replicate FileTree.longestName 'd')

theorem isName_longName : Path.IsName longName ∧ longName ≠ ".." := by
  have hchars : longName.toList = List.replicate FileTree.longestName 'd' := String.toList_ofList
  have hlength : longName.toList.length = FileTree.longestName := by
    rw [hchars, List.length_replicate]
  have hne {s : String} (hs : s.toList.length ≠ FileTree.longestName) : longName ≠ s := by
    intro h
    exact hs (h ▸ hlength)
  have hslash : '/' ∉ longName.toList := by
    rw [hchars, List.mem_replicate]
    exact fun h => absurd h.2 (by decide)
  exact ⟨⟨hne (by decide), hne (by decide), hslash⟩, hne (by decide)⟩

/-- A directory so far down that its path is longer than the system takes. -/
def burrow : AbsPath := List.replicate 17 longName

/-- Nothing but that directory and those above it. -/
def burrowTree : FileTree where
  entries := burrow.inits.map fun p => (p, .directory)

/-- A process can be in it. -/
theorem standing_burrow : burrowTree.Standing burrow where
  direct name h := by
    rw [List.eq_of_mem_replicate h]
    exact isName_longName
  directory q hq := by
    rw [FileTree.entry?]
    split
    · rfl
    · have hmem : q ∈ burrow.inits := (List.mem_inits _ _).mpr hq
      rw [burrowTree, Keyed.find?_map_const, if_pos hmem]
  fits name h := by
    rw [List.eq_of_mem_replicate h]
    decide +kernel

/-- Two steps up from a directory. -/
theorem stat_up_up (t : FileTree) (here : AbsPath) :
    t.stat here "../.." = .ok (here.dropLast.dropLast, .directory) := by
  have hsteps : Path.steps "../.." = ["..", ".."] := by decide
  have habs : Path.isAbsolute "../.." = false := by decide
  have hlocate : t.locate true here "../.." =
      .ok (.found here.dropLast.dropLast .directory) := by
    rw [FileTree.locate, habs, hsteps, if_neg (by decide), if_neg (by decide),
      if_neg (by decide), if_neg Bool.false_ne_true]
    simp [FileTree.linkLimit, FileTree.walk, FileTree.walkFrom]
  rw [FileTree.stat, FileTree.lookUp, hlocate]

/-- **In a directory too deep to be named the guard resolves nothing**,
where the system just steps up. -/
theorem resolve_ne_in_burrow :
    burrowTree.Standing burrow ∧
    burrowTree.stat burrow "../.." = .ok (List.replicate 15 longName, .directory) ∧
    ∀ q, resolve burrowTree burrow "../.." ≠ .ok q := by
  refine ⟨standing_burrow, ?_, ?_⟩
  · rw [stat_up_up, burrow, List.dropLast_replicate, List.dropLast_replicate]
  · intro q h
    obtain ⟨hnameable, -⟩ := (resolve_eq_ok_iff_of_standing standing_burrow).mp h
    have habs : Path.isAbsolute "../.." = false := by decide
    rw [Path.start, habs, if_neg Bool.false_ne_true] at hnameable
    have hlong : FileTree.longestPath < burrow.text.utf8ByteSize := by decide +kernel
    exact absurd hnameable.fits (Nat.not_le.mpr hlong)

end Guard

end Turnstile
