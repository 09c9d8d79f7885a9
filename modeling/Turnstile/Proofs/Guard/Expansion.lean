import Turnstile.Proofs.Guard.Visits
/-!
# Links that are expanded

Where names lead without any limit on links (`Leads`), and which links are
expanded on the way there (`Expands`). The limit only cuts resolutions
off: what resolves leads there, and every link expanded on the way was
resolved with levels to spare (`exists_of_expands`). A link that needs
itself would need a level below every level, so it never resolves
(`resolveNames_ne_ok_of_circular`). Links of one directory that stand one
behind the other take a level each, so as many resolve as there are
levels, if the system takes their paths (`resolveFrom_chain`).
-/

namespace Turnstile

namespace Guard

variable {t : FileTree} {cwd done dir place q : AbsPath} {name : String} {names rest : List String}
variable {levels : Nat}

/-! ## Without a limit -/

/-- Names lead from one place to another, however deep links are nested. -/
inductive Leads (t : FileTree) : AbsPath → List String → AbsPath → Prop
  /-- No names are left. -/
  | arrived (done : AbsPath) : Leads t done [] done
  /-- Two dots lead up. -/
  | up {done q : AbsPath} {rest : List String} :
      Leads t done.dropLast rest q → Leads t done (".." :: rest) q
  /-- What is no link leads down, whether it is there or not. -/
  | down {done q : AbsPath} {name : String} {rest : List String} :
      name ≠ ".." → t.NoLinkAt (done ++ [name]) → Leads t (done ++ [name]) rest q →
      Leads t done (name :: rest) q
  /-- A link leads to where its target does. -/
  | link {done mid q : AbsPath} {name target : String} {rest : List String} :
      name ≠ ".." → t.lstat (done ++ [name]) = .ok (.link target) →
      Leads t [] (absolute done target) mid → Leads t mid rest q → Leads t done (name :: rest) q

/-- To resolve names below a place the link at another one is expanded:
met among the names themselves, or on the way to where one of them
leads. -/
inductive Expands (t : FileTree) : AbsPath → List String → AbsPath → Prop
  | up {done place : AbsPath} {rest : List String} :
      Expands t done.dropLast rest place → Expands t done (".." :: rest) place
  | down {done place : AbsPath} {name : String} {rest : List String} :
      name ≠ ".." → t.NoLinkAt (done ++ [name]) → Expands t (done ++ [name]) rest place →
      Expands t done (name :: rest) place
  /-- The link itself is met. -/
  | here {done : AbsPath} {name target : String} {rest : List String} :
      name ≠ ".." → t.lstat (done ++ [name]) = .ok (.link target) →
      Expands t done (name :: rest) (done ++ [name])
  /-- Another link's target needs it. -/
  | inside {done place : AbsPath} {name target : String} {rest : List String} :
      name ≠ ".." → t.lstat (done ++ [name]) = .ok (.link target) →
      Expands t [] (absolute done target) place → Expands t done (name :: rest) place
  /-- What comes behind another link needs it. -/
  | past {done mid place : AbsPath} {name target : String} {rest : List String} :
      name ≠ ".." → t.lstat (done ++ [name]) = .ok (.link target) →
      Leads t [] (absolute done target) mid → Expands t mid rest place →
      Expands t done (name :: rest) place

/-- There is a link at the place whose own expansion needs that link
again. -/
def Circular (t : FileTree) (place : AbsPath) : Prop :=
  ∃ dir name target, place = dir ++ [name] ∧ t.lstat place = .ok (.link target) ∧
    Expands t [] (absolute dir target) place

/-- Looking shows one thing only. -/
theorem not_noLinkAt_of_link {target : String} (h : t.lstat place = .ok (.link target)) :
    ¬ t.NoLinkAt place := by
  rintro (hmissing | ⟨entry, hlook, hlink⟩)
  · rw [h] at hmissing
    cases hmissing
  · rw [h] at hlook
    cases hlook
    cases hlink

/-- **Names lead to one place only.** -/
theorem Leads.unique {q' : AbsPath} (h : Leads t done names q) (h' : Leads t done names q') :
    q = q' := by
  induction h generalizing q' with
  | arrived done =>
    cases h'
    rfl
  | up _ ih =>
    cases h' with
    | up h' => exact ih h'
    | down hup _ _ => exact absurd rfl hup
    | link hup _ _ _ => exact absurd rfl hup
  | down hup hnone _ ih =>
    cases h' with
    | up _ => exact absurd rfl hup
    | down _ _ h' => exact ih h'
    | link _ hlook _ _ => exact absurd hnone (not_noLinkAt_of_link hlook)
  | link hup hlook _ _ ihtarget ihrest =>
    cases h' with
    | up _ => exact absurd rfl hup
    | down _ hnone _ => exact absurd hnone (not_noLinkAt_of_link hlook)
    | link _ hlook' htarget hrest =>
      rw [hlook] at hlook'
      cases hlook'
      rw [ihtarget htarget] at ihrest
      exact ihrest hrest

/-- What resolves leads there, if the targets of links do. -/
theorem leads_of_resolveFrom {expand : List String → Except FileFailure AbsPath}
    (hexpand : ∀ ns mid, expand ns = .ok mid → Leads t [] ns mid)
    (h : resolveFrom t expand done names = .ok q) : Leads t done names q := by
  induction names generalizing done with
  | nil =>
    rw [resolveFrom] at h
    cases h
    exact .arrived _
  | cons name rest ih =>
    by_cases hup : name = ".."
    · subst hup
      rw [resolveFrom, if_pos rfl] at h
      exact .up (ih h)
    · rcases t.look_cases (done ++ [name]) with hnone | ⟨target, hlook⟩ | ⟨e, hlook, he⟩
      · rw [resolveFrom_of_noLinkAt hup hnone] at h
        exact .down hup hnone (ih h)
      · rw [resolveFrom_link hup hlook] at h
        split at h
        · rename_i mid hmid
          exact .link hup hlook (hexpand _ mid hmid) (ih h)
        · cases h
      · rw [resolveFrom_of_error hup hlook he] at h
        cases h

/-- **What resolves leads there**, however many levels it took. -/
theorem leads_of_resolveNames (h : resolveNames t levels names = .ok q) : Leads t [] names q := by
  induction levels generalizing names q with
  | zero => cases h
  | succ levels ih => exact leads_of_resolveFrom (fun _ _ hmid => ih hmid) h

/-! ## Circles -/

/-- **A link that was expanded was resolved**, with one level less at the
least than what it was expanded for. -/
theorem exists_of_expands {target : String}
    (h : Expands t done names (dir ++ [name]))
    (hlook : t.lstat (dir ++ [name]) = .ok (.link target))
    (hresolve : resolveFrom t (resolveNames t levels) done names = .ok q) :
    ∃ less ≤ levels, ∃ mid, resolveNames t less (absolute dir target) = .ok mid := by
  generalize hplace : dir ++ [name] = place at h
  induction h generalizing levels q with
  | up _ ih =>
    rw [resolveFrom, if_pos rfl] at hresolve
    exact ih hresolve hplace
  | down hup hnone _ ih =>
    rw [resolveFrom_of_noLinkAt hup hnone] at hresolve
    exact ih hresolve hplace
  | here hup hlook' =>
    obtain ⟨rfl, hname⟩ := List.append_inj' hplace rfl
    cases hname
    rw [hlook] at hlook'
    cases hlook'
    rw [resolveFrom_link hup hlook] at hresolve
    split at hresolve
    · exact ⟨levels, Nat.le_refl _, _, ‹_›⟩
    · cases hresolve
  | inside hup hlook' _ ih =>
    rw [resolveFrom_link hup hlook'] at hresolve
    split at hresolve
    · rename_i mid hmid
      cases levels with
      | zero => cases hmid
      | succ levels =>
        obtain ⟨less, hle, hless⟩ := ih hmid hplace
        exact ⟨less, Nat.le_succ_of_le hle, hless⟩
    · cases hresolve
  | past hup hlook' hleads _ ih =>
    rw [resolveFrom_link hup hlook'] at hresolve
    split at hresolve
    · rename_i mid hmid
      -- the resolution went on where the target leads
      rw [hleads.unique (leads_of_resolveNames hmid)] at ih
      exact ih hresolve hplace
    · cases hresolve

/-- **A link that needs itself never resolves.** -/
theorem resolveNames_ne_ok_of_circular {target : String}
    (hlook : t.lstat (dir ++ [name]) = .ok (.link target))
    (h : Expands t [] (absolute dir target) (dir ++ [name])) (levels : Nat) (q : AbsPath) :
    resolveNames t levels (absolute dir target) ≠ .ok q := by
  induction levels using Nat.strongRecOn generalizing q with
  | ind levels ih =>
    intro hresolve
    cases levels with
    | zero => cases hresolve
    | succ levels =>
      obtain ⟨less, hle, mid, hmid⟩ := exists_of_expands h hlook hresolve
      exact ih less (Nat.lt_succ_of_le hle) mid hmid

/-- **Nor does a path that needs such a link.** -/
theorem resolve_of_circular {path : String} (h : Expands t [] (absolute cwd path) place)
    (hcircular : Circular t place) :
    ∃ cause, resolve t cwd path = .error (.unresolved path cause) := by
  obtain ⟨dir, name, target, rfl, hlook, hagain⟩ := hcircular
  rw [resolve]
  split
  · rename_i q hq
    obtain ⟨less, -, mid, hmid⟩ := exists_of_expands h hlook hq
    exact absurd hmid (resolveNames_ne_ok_of_circular hlook hagain less mid)
  · exact ⟨_, rfl⟩

/-! ## Chains -/

/-- A name of something in a directory. -/
structure EntryName (name : String) : Prop where
  isName : Path.IsName name ∧ name ≠ ".."
  fits : name.utf8ByteSize ≤ FileTree.longestName

instance (name : String) : Decidable (EntryName name) :=
  decidable_of_iff
    (((name ≠ "" ∧ name ≠ "." ∧ '/' ∉ name.toList) ∧ name ≠ "..") ∧
      name.utf8ByteSize ≤ FileTree.longestName)
    ⟨fun h => ⟨h.1, h.2⟩, fun h => ⟨h.isName, h.fits⟩⟩

/-- From a name of a directory on, so many links of that directory each
hold the next name, and the last name is that of something there that is
no link. -/
inductive Chain (t : FileTree) (dir : AbsPath) : String → List String → Prop
  | last {name : String} {entry : Entry} :
      EntryName name → t.entry? (dir ++ [name]) = some entry → entry.isLink = false →
      Chain t dir name []
  | link {name next : String} {rest : List String} :
      EntryName name → t.entry? (dir ++ [name]) = some (.link next) → Chain t dir next rest →
      Chain t dir name (next :: rest)

theorem Chain.entryName (h : Chain t dir name rest) : EntryName name := by
  cases h with
  | last hname _ _ => exact hname
  | link hname _ _ => exact hname

/-- A name is a path of one name. -/
theorem absolute_name (hname : Path.IsName name) (dir : AbsPath) :
    absolute dir name = dir ++ [name] := by
  have hsplit : Text.splitOn name '/' = [name] := by
    have hjoin : Text.splitOn (Text.join (String.singleton '/') [name]) '/' = [name] :=
      Text.splitOn_join (by simp) (by simpa using hname.2.2)
    exact hjoin
  have hnames : names name = [name] := by
    simp [names, Path.names, hsplit, hname.1, hname.2.1]
  have hrelative : Path.isAbsolute name = false := by
    rw [Path.isAbsolute, Text.startsWith, Bool.eq_false_iff]
    intro h
    obtain ⟨rest, hrest⟩ := List.isPrefixOf_iff_prefix.mp h
    exact hname.2.2 (hrest ▸ List.mem_append_left rest List.mem_cons_self)
  rw [absolute, hrelative, if_neg Bool.false_ne_true, hnames]

/-- A link with nothing behind it leads to what its target does. -/
theorem resolveFrom_only_link {expand : List String → Except FileFailure AbsPath}
    (hup : name ≠ "..") {target : String}
    (hlook : t.lstat (done ++ [name]) = .ok (.link target)) :
    resolveFrom t expand done [name] = expand (absolute done target) := by
  rw [resolveFrom_link hup hlook]
  cases expand (absolute done target) with
  | ok mid => simp [resolveFrom]
  | error e => rfl

/-- **A chain takes a level for each of its links**, and a text that the
system takes for each of its names. -/
theorem resolveFrom_chain (hdir : Clear t dir) (h : Chain t dir name rest) :
    resolveFrom t (resolveNames t levels) dir [name] = .ok q ↔
      q = dir ++ [rest.getLastD name] ∧ rest.length ≤ levels ∧
        ∀ n ∈ name :: rest, (dir ++ [n]).Nameable := by
  induction h generalizing levels with
  | @last name entry hname he hlink =>
    by_cases hnameable : (dir ++ [name]).Nameable
    · have hlook := hdir.lstat_append_singleton hname.isName hname.fits hnameable he
      rw [resolveFrom_down hname.isName.2 hlook hlink]
      simp [resolveFrom, hnameable, eq_comm]
    · obtain ⟨e, herror⟩ : ∃ e, resolveFrom t (resolveNames t levels) dir [name] = .error e :=
        resolveFrom_of_not_nameable hdir.direct hname.isName hnameable
      rw [herror]
      simp [hnameable]
  | @link name next rest hname he hrest ih =>
    by_cases hnameable : (dir ++ [name]).Nameable
    · have hlook := hdir.lstat_append_singleton hname.isName hname.fits hnameable he
      rw [resolveFrom_only_link hname.isName.2 hlook, absolute_name hrest.entryName.isName.1]
      cases levels with
      | zero => simp [resolveNames]
      | succ levels =>
        rw [resolveNames, hdir.resolveFrom_root, ih, List.getLastD_cons, List.length_cons,
          Nat.add_le_add_iff_right, List.forall_mem_cons (a := name), and_iff_right hnameable]
    · obtain ⟨e, herror⟩ : ∃ e, resolveFrom t (resolveNames t levels) dir [name] = .error e :=
        resolveFrom_of_not_nameable hdir.direct hname.isName hnameable
      rw [herror]
      simp [hnameable]

/-- The same from the root, whatever directory holds the chain. -/
theorem resolve_chain (hdir : t.Standing dir) (h : Chain t dir name rest) {path : String}
    (hpath : absolute cwd path = dir ++ [name]) :
    resolve t cwd path = .ok q ↔
      q = dir ++ [rest.getLastD name] ∧ rest.length ≤ linkDepth ∧
        ∀ n ∈ name :: rest, (dir ++ [n]).Nameable := by
  rw [resolve_eq_ok_iff, hpath]
  by_cases hnameable : dir.Nameable
  · have hclear : Clear t dir := ⟨hdir, hnameable⟩
    rw [hclear.resolveFrom_root]
    exact resolveFrom_chain hclear h
  · -- neither side holds of a directory whose text cannot be written
    constructor
    · intro hresolve
      rw [resolveFrom_append] at hresolve
      split at hresolve
      · rename_i mid hmid
        exact absurd (nameable_of_resolveFrom hdir hmid) hnameable
      · cases hresolve
    · rintro ⟨-, -, hnames⟩
      have hfirst := hnames name List.mem_cons_self
      have habove := hfirst.of_prefix (List.prefix_append dir [name])
      exact absurd habove hnameable

/-- **The resolution always halts.** On every path the machine comes to
an answer, which is the guard's, and never follows more links at once than
the limit allows. A path that needs a link which needs itself is refused.
And links of one directory that stand one behind the other are resolved
exactly if they are no more than the limit and each name's path is one the
system takes; then to where the last of them points. -/
theorem resolve_halts (t : FileTree) (cwd : AbsPath) (path : String) :
    (∃ result, Visit.Halts t (.start (absolute cwd path)) result ∧
      resolve t cwd path = result.mapError (.unresolved path)) ∧
    (∀ v, Visit.Reaches t (.start (absolute cwd path)) v → v.waiting.length ≤ linkDepth) ∧
    (∀ place, Expands t [] (absolute cwd path) place → Circular t place →
      ∃ cause, resolve t cwd path = .error (.unresolved path cause)) ∧
    ∀ dir name rest, t.Standing dir → Chain t dir name rest →
      absolute cwd path = dir ++ [name] →
      ∀ q, resolve t cwd path = .ok q ↔
        q = dir ++ [rest.getLastD name] ∧ rest.length ≤ linkDepth ∧
          ∀ n ∈ name :: rest, (dir ++ [n]).Nameable := by
  refine ⟨⟨_, Visit.halts_start t _, ?_⟩, fun v => Visit.waiting_le,
    fun place => resolve_of_circular, fun dir name rest hdir hchain hpath q =>
      resolve_chain hdir hchain hpath⟩
  rw [resolve]
  split <;> rename_i h <;> rw [h] <;> rfl

/-- Two links that hold each other's names, one of them behind a detour, and
two that lead to a file. -/
def loopedTree : FileTree where
  entries := [(["a"], .link "b/../b"), (["b"], .link "a"), (["c"], .link "d"),
    (["d"], .link "e"), (["e"], .file [] false)]

/-- The one pair is refused, the other resolved. -/
theorem resolve_halts_looped :
    (∃ cause, resolve loopedTree [] "a/x" = .error (.unresolved "a/x" cause)) ∧
    resolve loopedTree [] "/c" = .ok ["e"] := by
  have hfirst : loopedTree.lstat ([] ++ ["a"]) = .ok (.link "b/../b") := by decide +kernel
  have hsecond : loopedTree.lstat ([] ++ ["b"]) = .ok (.link "a") := by decide +kernel
  have htarget : absolute [] "b/../b" = ["b", "..", "b"] := by decide +kernel
  have hback : absolute [] "a" = ["a"] := by decide +kernel
  have hcircular : Circular loopedTree ([] ++ ["a"]) := by
    refine ⟨[], "a", _, rfl, hfirst, ?_⟩
    rw [htarget]
    refine .inside (by decide) hsecond ?_
    rw [hback]
    exact .here (by decide) hfirst
  have hexpands : Expands loopedTree [] (absolute [] "a/x") ([] ++ ["a"]) := by
    have hpath : absolute [] "a/x" = ["a", "x"] := by decide +kernel
    rw [hpath]
    exact .here (by decide) hfirst
  have hfile : loopedTree.entry? ([] ++ ["e"]) = some (.file [] false) := by decide
  have hchain : Chain loopedTree [] "c" ["d", "e"] :=
    .link (by decide) (by decide) (.link (by decide) (by decide) (.last (by decide) hfile rfl))
  refine ⟨(resolve_halts loopedTree [] "a/x").2.2.1 _ hexpands hcircular, ?_⟩
  have hresolve := (resolve_halts loopedTree [] "/c").2.2.2 [] "c" _
    (loopedTree.standing_root) hchain (by decide +kernel) ["e"]
  exact hresolve.mpr ⟨rfl, by decide, by decide +kernel⟩

/-! ## Chains that are not resolved -/

/-- The deep directory with a file in it and a link to that file. -/
def burrowChainTree : FileTree :=
  (burrowTree.put (burrow ++ ["b"]) (.file [] false)).put (burrow ++ ["a"]) (.link "b")

theorem standing_burrowChainTree : burrowChainTree.Standing burrow := by
  have hbelow (name : String) : ¬ burrow ++ [name] <+: burrow := by
    intro h
    have hlength := h.length_le
    rw [List.length_append, List.length_singleton] at hlength
    omega
  exact (standing_burrow.put (hbelow "b")).put (hbelow "a")

theorem chain_burrowChainTree : Chain burrowChainTree burrow "a" ["b"] := by
  have hne (name : String) : burrow ++ [name] ≠ [] := by simp
  have hlink : burrowChainTree.entry? (burrow ++ ["a"]) = some (.link "b") := by
    rw [burrowChainTree, FileTree.entry?_put (hne "a"), if_pos rfl]
  have hfile : burrowChainTree.entry? (burrow ++ ["b"]) = some (.file [] false) := by
    rw [burrowChainTree, FileTree.entry?_put (hne "a"), if_neg (by simp),
      FileTree.entry?_put (hne "b"), if_pos rfl]
  exact .link (by decide) hlink (.last (by decide) hfile rfl)

/-- **One link in a directory too deep to be named is not resolved.** -/
theorem resolve_chain_ne_in_burrow :
    burrowChainTree.Standing burrow ∧ Chain burrowChainTree burrow "a" ["b"] ∧
    absolute burrow "a" = burrow ++ ["a"] ∧
    ∀ q, resolve burrowChainTree burrow "a" ≠ .ok q := by
  have hpath : absolute burrow "a" = burrow ++ ["a"] := absolute_name (by simp [Path.IsName]) burrow
  refine ⟨standing_burrowChainTree, chain_burrowChainTree, hpath, fun q h => ?_⟩
  obtain ⟨-, -, hnames⟩ := (resolve_chain standing_burrowChainTree chain_burrowChainTree hpath).mp h
  have hfirst := hnames "a" List.mem_cons_self
  have hburrow : burrow.Nameable := hfirst.of_prefix (List.prefix_append burrow ["a"])
  have hlong : FileTree.longestPath < burrow.text.utf8ByteSize := by decide +kernel
  exact absurd hburrow.fits (Nat.not_le.mpr hlong)

end Guard

end Turnstile
