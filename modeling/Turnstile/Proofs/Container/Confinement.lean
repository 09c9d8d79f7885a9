import Turnstile.Proofs.Container.Words
import Turnstile.Proofs.Guard.Soundness
import Mathlib.Data.List.MinMax
/-!
# Confinement — what a command in a container can write

A container sees the host through its mounts. Which of them is writable
and which overlay it is decided separately, each from a resolution of its
own; that they fit together is what is shown here. The one mount that may
be writable lies outside every read-only root (`mountWorkDir_eq_ok`), and
a mount that is deeper than a root and covers a place in the root lies in
the root itself, so the deepest mount over a protected place is never
that one (`Confined.readOnly`).
-/

namespace Turnstile

/-! ## Mounts over a place -/

namespace Mount

/-- The place is seen through the mount. -/
def Covers (m : Mount) (p : AbsPath) : Prop := Path.names m.directory <+: p

/-- How far down the mount is. -/
def depth (m : Mount) : Nat := (Path.names m.directory).length

/-- Of the mounts over the place, none is deeper: the runtime lets this
one win. -/
structure Deepest (ms : List Mount) (p : AbsPath) (m : Mount) : Prop where
  mem : m ∈ ms
  covers : m.Covers p
  le : ∀ m' ∈ ms, m'.Covers p → m'.depth ≤ m.depth

variable {ms : List Mount} {p : AbsPath} {m : Mount}

/-- Where there is a mount over a place, one is deepest. -/
theorem exists_deepest (hm : m ∈ ms) (hp : m.Covers p) : ∃ d, Deepest ms p d := by
  classical
  let covering := ms.filter fun m => m.Covers p
  have hcovering {m' : Mount} : m' ∈ covering ↔ m' ∈ ms ∧ m'.Covers p := by simp [covering]
  cases hd : covering.argmax depth with
  | none =>
    have hnil : covering = [] := List.argmax_eq_none.mp hd
    have hmem : m ∈ covering := hcovering.mpr ⟨hm, hp⟩
    rw [hnil] at hmem
    cases hmem
  | some d =>
    obtain ⟨hmem, hcovers⟩ := hcovering.mp (List.argmax_mem hd)
    exact ⟨d, hmem, hcovers, fun m' h h' => List.le_of_mem_argmax (hcovering.mpr ⟨h, h'⟩) hd⟩

/-- **Of two mounts over a place the deeper one lies in the other.** -/
theorem Deepest.inside (hd : Deepest ms p m) {m' : Mount} (hm' : m' ∈ ms) (hp : m'.Covers p) :
    Path.names m'.directory <+: Path.names m.directory :=
  List.prefix_of_prefix_length_le hp hd.covers (hd.le m' hm' hp)

end Mount

/-! ## Traversals that may fail -/

section Traversal

variable {α β ε : Type} {f : α → Except ε β}

/-- The first element, then the others. -/
theorem mapM_cons_eq (x : α) (xs : List α) :
    (x :: xs).mapM f =
      match f x, xs.mapM f with
      | .error e, _ => .error e
      | .ok _, .error e => .error e
      | .ok y, .ok ys => .ok (y :: ys) := by
  rw [List.mapM_cons]
  cases f x with
  | error e => rfl
  | ok y => cases xs.mapM f <;> rfl

/-- Every element has its value in what a traversal gives. -/
theorem exists_mem_of_mapM_eq_ok {xs : List α} {ys : List β} (h : xs.mapM f = .ok ys) {x : α}
    (hx : x ∈ xs) : ∃ y ∈ ys, f x = .ok y := by
  induction xs generalizing ys with
  | nil => cases hx
  | cons first rest ih =>
    rw [mapM_cons_eq] at h
    split at h
    · cases h
    · cases h
    · rename_i y ys' hfirst hrest
      cases h
      rcases List.mem_cons.mp hx with rfl | hx
      · exact ⟨y, List.mem_cons_self .., hfirst⟩
      · obtain ⟨z, hz, hfz⟩ := ih hrest hx
        exact ⟨z, List.mem_cons_of_mem _ hz, hfz⟩

/-- A traversal fails exactly where one of its elements does. -/
theorem mapM_eq_error_iff {xs : List α} :
    (∃ e, xs.mapM f = .error e) ↔ ∃ x ∈ xs, ∃ e, f x = .error e := by
  induction xs with
  | nil => simp [pure, Except.pure]
  | cons first rest ih =>
    rw [mapM_cons_eq, List.exists_mem_cons_iff, ← ih]
    cases f first with
    | error e => simp
    | ok y => cases rest.mapM f <;> simp

/-- So of at most one element. -/
theorem option_mapM_eq_ok {x : Option α} {y : Option β} (h : x.mapM f = .ok y) :
    (x = none ∧ y = none) ∨ ∃ a b, x = some a ∧ y = some b ∧ f a = .ok b := by
  cases x with
  | none =>
    cases h
    exact Or.inl ⟨rfl, rfl⟩
  | some a =>
    cases ha : f a with
    | error e =>
      rw [Option.mapM_some, ha] at h
      cases h
    | ok b =>
      rw [Option.mapM_some, ha] at h
      cases h
      exact Or.inr ⟨a, b, rfl, rfl, ha⟩

end Traversal

namespace Container

open Guard

variable {t : FileTree} {cwd : AbsPath} {policy : Policy}

/-! ## The working directory -/

/-- What the first check lets through leads where the path itself does. -/
theorem resolve_text_of_checkAllowed (hcwd : cwd.Named) {roots : List String} {dir : String}
    {q : CheckedPath} (h : checkAllowed t cwd roots (.unrestricted dir) = .ok q) :
    resolve t cwd q.text = resolve t cwd dir := by
  by_cases hne : roots = []
  · rw [hne, checkAllowed_nil, Except.ok.injEq] at h
    rw [← h, CheckedPath.text]
  · obtain ⟨p, rfl, hp, -⟩ := place_of_checkAllowed hne h
    rw [CheckedPath.text] at hp
    rw [CheckedPath.text, hp, resolve_text_of_settled (resolve_settled hcwd hp)]

/-- **The mount of a working directory**: it must be let through and lead
somewhere, and what is mounted is where it leads. -/
theorem mountWorkDir_eq (hcwd : cwd.Named) (dir : String) :
    mountWorkDir t cwd policy dir =
      match checkAllowed t cwd policy.allowedPaths (.unrestricted dir), resolve t cwd dir with
      | .error e, _ => .error e
      | .ok _, .error e => .error e
      | .ok _, .ok p =>
        .ok ⟨p.text, (checkWritable t cwd policy.readOnlyPaths (.resolved p)).toBool⟩ := by
  rw [mountWorkDir]
  cases hallowed : checkAllowed t cwd policy.allowedPaths (.unrestricted dir) with
  | error e => rfl
  | ok q =>
    -- the path is resolved once more, after the check has resolved it
    change (resolve t cwd q.text >>= _) = _
    rw [resolve_text_of_checkAllowed hcwd hallowed]
    cases resolve t cwd dir <;> rfl

/-- **A working directory that is mounted** lies in an allowed root where
there are any, and is writable exactly where it lies outside every
read-only one. -/
theorem mountWorkDir_eq_ok (hcwd : cwd.Named) {dir : String} {m : Mount}
    (h : mountWorkDir t cwd policy dir = .ok m) :
    ∃ p, resolve t cwd dir = .ok p ∧ m.directory = p.text ∧
      (policy.allowedPaths ≠ [] → ∃ root ∈ policy.allowedPaths, LiesIn t cwd p root) ∧
      (m.writable = true ↔ ∀ root ∈ policy.readOnlyPaths, LiesOutside t cwd p root) := by
  rw [mountWorkDir_eq hcwd] at h
  split at h
  · cases h
  · cases h
  · rename_i q p hallowed hp
    cases h
    refine ⟨p, hp, rfl, fun hne => ?_, toBool_checkWritable_iff (resolve_settled hcwd hp)⟩
    obtain ⟨p', -, hp', hin⟩ := place_of_checkAllowed hne hallowed
    rw [CheckedPath.text, hp, Except.ok.injEq] at hp'
    rwa [hp']

/-! ## What a command is refused for -/

/-- Nothing is started: there is no program, the working directory is not
let through or leads nowhere, or a read-only root leads nowhere. -/
def Refused (t : FileTree) (cwd : AbsPath) (policy : Policy) (command : Command) : Prop :=
  command.isBlank = true ∨
  (∃ dir, command.workDir = some dir ∧
    ((∃ e, checkAllowed t cwd policy.allowedPaths (.unrestricted dir) = .error e) ∨
      ∃ e, resolve t cwd dir = .error e)) ∨
  ∃ root ∈ policy.readOnlyPaths, ∃ e, resolve t cwd root = .error e

/-- A working directory is not mounted exactly where it is not let through
or leads nowhere. -/
theorem mountWorkDir_eq_error_iff (hcwd : cwd.Named) (dir : String) :
    (∃ e, mountWorkDir t cwd policy dir = .error e) ↔
      (∃ e, checkAllowed t cwd policy.allowedPaths (.unrestricted dir) = .error e) ∨
        ∃ e, resolve t cwd dir = .error e := by
  rw [mountWorkDir_eq hcwd]
  rcases checkAllowed t cwd policy.allowedPaths (.unrestricted dir) with e | q
  · simp
  · rcases resolve t cwd dir with e | p <;> simp

/-- The mounts of a command: that of the working directory, and then those
of the roots. -/
theorem mounts_eq (workDir : Option String) :
    mounts t cwd policy workDir =
      match workDir.mapM (mountWorkDir t cwd policy),
        policy.readOnlyPaths.mapM (resolve t cwd) with
      | .error e, _ => .error e
      | .ok _, .error e => .error e
      | .ok work, .ok roots => .ok ⟨work, roots⟩ := by
  rw [mounts]
  cases workDir.mapM (mountWorkDir t cwd policy) with
  | error e => rfl
  | ok work => cases policy.readOnlyPaths.mapM (resolve t cwd) <;> rfl

/-- **There are no mounts exactly where** that of the working directory or
one of the roots fails. -/
theorem mounts_eq_error_iff (workDir : Option String) :
    (∃ e, mounts t cwd policy workDir = .error e) ↔
      (∃ dir, workDir = some dir ∧ ∃ e, mountWorkDir t cwd policy dir = .error e) ∨
        ∃ root ∈ policy.readOnlyPaths, ∃ e, resolve t cwd root = .error e := by
  have hwork : (∃ e, workDir.mapM (mountWorkDir t cwd policy) = .error e) ↔
      ∃ dir, workDir = some dir ∧ ∃ e, mountWorkDir t cwd policy dir = .error e := by
    cases workDir with
    | none => simp [pure, Except.pure]
    | some dir => cases hdir : mountWorkDir t cwd policy dir <;> simp [hdir]
  rw [← hwork, ← mapM_eq_error_iff, mounts_eq]
  rcases workDir.mapM (mountWorkDir t cwd policy) with e | work
  · simp
  · rcases policy.readOnlyPaths.mapM (resolve t cwd) with e | roots <;> simp

/-- **A command is refused exactly where** it is blank or has no mounts. -/
theorem refused_iff (hcwd : cwd.Named) (command : Command) :
    Refused t cwd policy command ↔
      command.isBlank = true ∨ ∃ e, mounts t cwd policy command.workDir = .error e := by
  simp only [Refused, mounts_eq_error_iff, mountWorkDir_eq_error_iff hcwd]

/-! ## What is started -/

/-- **A command in a container**: refused with the world as it was, or one
start of the runtime. -/
theorem exec_on (machine : Machine) (runtime : String) (config : ContainerConfig)
    (command : Command) (policy : Policy) (w : World) :
    ((sandbox machine runtime config).exec command policy).on w =
      if command.isBlank then (.error .emptyProgram, w)
      else
        match mounts w.files w.cwd policy command.workDir with
        | .error e => (.error (.refused e), w)
        | .ok ms =>
          let run := start machine (nameIn w)
            (launch runtime config (nameIn w) command policy ms) (afterNaming w)
          (.ok (run.1.result command.program policy.effectiveTimeout
            policy.effectiveMaxOutputBytes), run.2) := by
  by_cases hblank : command.isBlank = true
  · simp [sandbox, hblank]
  · rw [if_neg hblank]
    cases hmounts : mounts w.files w.cwd policy command.workDir with
    | error e => simp [sandbox, Sandbox.guarded, hblank, hmounts, Except.mapError]
    | ok ms =>
      simp [sandbox, Sandbox.guarded, nextName, hblank, hmounts, Except.mapError, Except.map]

/-- What the arguments of a run have mounted: read as a runtime reads
them, the options before the image bind these mounts and nothing else. -/
structure Binds (config : ContainerConfig) (command : Command) (args : List String)
    (ms : List Mount) : Prop where
  /-- The words before the image are options, all of them; where the image
  is none, reading stops there. -/
  read : ∃ words os,
    args = "run" :: words ++ config.image :: command.program :: command.args ∧
    readOptions words = (os, []) ∧
    (config.image ∉ switches ++ takers →
      readOptions (words ++ config.image :: command.program :: command.args) =
        (os, config.image :: command.program :: command.args)) ∧
    os.filterMap RunOption.bind? = ms.map Mount.spec
  /-- Every mount shows a directory under its own name. -/
  bind : ∀ m ∈ ms, ':' ∉ m.directory.toList →
    Bind.read? m.spec = some ⟨m.directory, m.directory, m.writable⟩

/-- What the mounts of a command allow: nothing that the policy protects
can be written through them. -/
structure Confined (t : FileTree) (cwd : AbsPath) (policy : Policy) (workDir : Option String)
    (ms : List Mount) : Prop where
  /-- The working directory is mounted, where there is one, and every
  read-only root; nothing else is. The working directory is writable unless
  it lies in such a root. -/
  mounted : ∃ work roots writable,
    workDir.mapM (resolve t cwd) = .ok work ∧
    policy.readOnlyPaths.mapM (resolve t cwd) = .ok roots ∧
    ms = work.toList.map (fun p => ⟨p.text, writable⟩) ++
      roots.map (fun p => ⟨p.text, false⟩) ∧
    ∀ p, work = some p →
      (writable = true ↔ ∀ root ∈ policy.readOnlyPaths, LiesOutside t cwd p root)
  /-- What is writable is the working directory, and lies in an allowed
  root where there are any and outside every read-only one. -/
  writable : ∀ m ∈ ms, m.writable = true →
    ∃ dir p, workDir = some dir ∧ resolve t cwd dir = .ok p ∧ m.directory = p.text ∧
      (policy.allowedPaths ≠ [] → ∃ root ∈ policy.allowedPaths, LiesIn t cwd p root) ∧
      ∀ root ∈ policy.readOnlyPaths, LiesOutside t cwd p root
  atMostOne : (ms.filter (·.writable)).length ≤ 1
  /-- Over a place in a read-only root the deepest mount is not writable. -/
  readOnly : ∀ root ∈ policy.readOnlyPaths, ∀ p, LiesIn t cwd p root →
    (∃ m, Mount.Deepest ms p m) ∧ ∀ m, Mount.Deepest ms p m → m.writable = false

/-- All mounts of a command. -/
def Mounts.all (ms : Mounts) : List Mount :=
  ms.workDir.toList ++ ms.readOnly.map fun p => ⟨p.text, false⟩

/-- **The arguments bind the mounts** they were made of. -/
theorem binds_launch (runtime : String) (config : ContainerConfig) (container : String)
    (command : Command) (policy : Policy) (ms : Mounts) :
    Binds config command (launch runtime config container command policy ms).args ms.all where
  read := by
    have hread := readOptions_options config container command policy ms.workDir
      (ms.readOnly.map (·.text))
    refine ⟨_, runOptions config container command policy ms.workDir (ms.readOnly.map (·.text)),
      rfl, ?_, fun himage => ?_, ?_⟩
    · have := hread []
      rwa [List.append_nil, readOptions, List.append_nil] at this
    · rw [hread, readOptions_stop himage, List.append_nil]
    · rw [binds_runOptions, Mounts.all, List.map_map]
      rfl
  bind m _ hm := m.read?_spec hm

/-- A mount is that of the working directory or that of a root. -/
theorem Mounts.mem_all {ms : Mounts} {m : Mount} :
    m ∈ ms.all ↔ ms.workDir = some m ∨ ∃ r ∈ ms.readOnly, ⟨r.text, false⟩ = m := by
  rw [Mounts.all, List.mem_append, Option.mem_toList, List.mem_map]

/-- Mounts come from a working directory that can be mounted and from
roots that resolve. -/
theorem mounts_eq_ok {workDir : Option String} {ms : Mounts}
    (h : mounts t cwd policy workDir = .ok ms) :
    workDir.mapM (mountWorkDir t cwd policy) = .ok ms.workDir ∧
      policy.readOnlyPaths.mapM (resolve t cwd) = .ok ms.readOnly := by
  rw [mounts_eq] at h
  split at h
  · cases h
  · cases h
  · rename_i work roots hwork hroots
    cases h
    exact ⟨hwork, hroots⟩

/-- **The mounts of a command confine it.** -/
theorem confined_mounts (hcwd : cwd.Named) {workDir : Option String} {ms : Mounts}
    (h : mounts t cwd policy workDir = .ok ms) : Confined t cwd policy workDir ms.all := by
  obtain ⟨hwork, hroots⟩ := mounts_eq_ok h
  have hwritable : ∀ m ∈ ms.all, m.writable = true →
      ∃ dir p, workDir = some dir ∧ resolve t cwd dir = .ok p ∧ m.directory = p.text ∧
        (policy.allowedPaths ≠ [] → ∃ root ∈ policy.allowedPaths, LiesIn t cwd p root) ∧
        ∀ root ∈ policy.readOnlyPaths, LiesOutside t cwd p root := by
    intro m hm hw
    rcases Mounts.mem_all.mp hm with hm | ⟨r, -, rfl⟩
    · rw [hm] at hwork
      obtain ⟨-, hnone⟩ | ⟨dir, m', hdir, hm', hmount⟩ := option_mapM_eq_ok hwork
      · cases hnone
      cases hm'
      obtain ⟨p, hp, hdirectory, hin, hout⟩ := mountWorkDir_eq_ok hcwd hmount
      exact ⟨dir, p, hdir, hp, hdirectory, hin, hout.mp hw⟩
    · cases hw
  refine ⟨?_, hwritable, ?_, ?_⟩
  · obtain ⟨hdir, hm⟩ | ⟨dir, m, hdir, hm, hmount⟩ := option_mapM_eq_ok hwork
    · refine ⟨none, ms.readOnly, false, ?_, hroots, ?_, fun p hp => ?_⟩
      · rw [hdir]
        rfl
      · rw [Mounts.all, hm]
        rfl
      · cases hp
    · obtain ⟨p, hp, hdirectory, -, hout⟩ := mountWorkDir_eq_ok hcwd hmount
      refine ⟨some p, ms.readOnly, m.writable, ?_, hroots, ?_, fun q hq => ?_⟩
      · rw [hdir, Option.mapM_some, hp]
        rfl
      · obtain ⟨directory, writable⟩ := m
        subst hdirectory
        rw [Mounts.all, hm]
        rfl
      · cases hq
        exact hout
  · have hnone : (ms.readOnly.map fun p => (⟨p.text, false⟩ : Mount)).filter (·.writable) = [] := by
      simp
    rw [Mounts.all, List.filter_append, hnone, List.append_nil]
    refine Nat.le_trans (List.length_filter_le ..) ?_
    cases ms.workDir <;> simp
  · rintro root hroot p ⟨r, hr, hpre⟩
    -- the root's own mount covers the place
    obtain ⟨r', hmem, hr'⟩ := exists_mem_of_mapM_eq_ok hroots hroot
    rw [hr, Except.ok.injEq] at hr'
    subst hr'
    have hnames : Path.names r.text = r :=
      AbsPath.names_text (resolve_settled hcwd hr).direct.named
    have hm : (⟨r.text, false⟩ : Mount) ∈ ms.all := Mounts.mem_all.mpr (Or.inr ⟨r, hmem, rfl⟩)
    have hcovers : Mount.Covers ⟨r.text, false⟩ p := by rwa [Mount.Covers, hnames]
    refine ⟨Mount.exists_deepest hm hcovers, fun d hd => ?_⟩
    by_contra hw
    obtain ⟨dir, q, -, hq, hdirectory, -, hout⟩ := hwritable d hd.mem (by simpa using hw)
    -- so a deepest mount lies in the root, where nothing writable is mounted
    have hin := hd.inside hm hcovers
    rw [hnames, hdirectory, AbsPath.names_text (resolve_settled hcwd hq).direct.named] at hin
    exact (hout root hroot).not_liesIn ⟨r, hr, hin⟩

/-- **A command in a container is confined.** It is refused, whatever the
machine, with the world as it was; or the runtime is started once with
arguments that bind mounts which confine it. -/
theorem exec_confined (w : World) (hcwd : w.cwd.Named) (runtime : String)
    (config : ContainerConfig) (command : Command) (policy : Policy) :
    (Refused w.files w.cwd policy command →
      ∃ e, ∀ machine, ((sandbox machine runtime config).exec command policy).on w = (.error e, w)) ∧
    (¬ Refused w.files w.cwd policy command →
      ∃ (container : String) (l : Launch) (ms : List Mount),
        Binds config command l.args ms ∧ Confined w.files w.cwd policy command.workDir ms ∧
        l.program = runtime ∧
        ∀ machine, ((sandbox machine runtime config).exec command policy).on w =
          let run := start machine container l (afterNaming w)
          (.ok (run.1.result command.program policy.effectiveTimeout
            policy.effectiveMaxOutputBytes), run.2)) := by
  rw [refused_iff hcwd]
  constructor
  · rintro (hblank | ⟨e, hmounts⟩)
    · exact ⟨.emptyProgram, fun machine => by rw [exec_on, if_pos hblank]⟩
    · by_cases hblank : command.isBlank = true
      · exact ⟨.emptyProgram, fun machine => by rw [exec_on, if_pos hblank]⟩
      · exact ⟨.refused e, fun machine => by rw [exec_on, if_neg hblank, hmounts]⟩
  · intro h
    obtain ⟨hblank, hnone⟩ := not_or.mp h
    cases hmounts : mounts w.files w.cwd policy command.workDir with
    | error e => exact absurd ⟨e, hmounts⟩ hnone
    | ok ms =>
      refine ⟨nameIn w, launch runtime config (nameIn w) command policy ms, ms.all,
        binds_launch runtime config (nameIn w) command policy ms, confined_mounts hcwd hmounts,
        rfl, fun machine => ?_⟩
      rw [exec_on, if_neg hblank, hmounts]

/-- List the files of a directory that is reached through two links. -/
def listing : Command where
  program := "ls"
  args := []
  stdin := none
  workDir := some "back/link/.."
  env := []

/-- The box is mounted to be written, and its documents over it, not to be
written. -/
theorem exec_confined_listing :
    ¬ Refused knottedTree ["box"] knottedPolicy listing ∧
    ∃ (l : Launch) (ms : List Mount), Binds .default listing l.args ms ∧
      Confined knottedTree ["box"] knottedPolicy listing.workDir ms ∧
      ms = [⟨"/box", true⟩, ⟨"/box/docs", false⟩] := by
  have hcwd : AbsPath.Named ["box"] := by simp [AbsPath.Named, Path.IsName]
  have hallowed : checkAllowed knottedTree ["box"] ["/box"] (.unrestricted "back/link/..") =
      .ok (.resolved ["box"]) := by decide +kernel
  have hwork : resolve knottedTree ["box"] "back/link/.." = .ok ["box"] := by decide +kernel
  have hroot : resolve knottedTree ["box"] "/box/docs" = .ok ["box", "docs"] := by decide +kernel
  have hlet : ¬ Refused knottedTree ["box"] knottedPolicy listing := by
    rintro (hblank | ⟨dir, hdir, ⟨e, he⟩ | ⟨e, he⟩⟩ | ⟨root, hmem, e, he⟩)
    · revert hblank
      decide
    · cases hdir
      exact absurd (hallowed.symm.trans he) (by simp)
    · cases hdir
      exact absurd (hwork.symm.trans he) (by simp)
    · rw [List.mem_singleton.mp hmem, hroot] at he
      cases he
  obtain ⟨container, l, ms, hbinds, hconfined, -⟩ :=
    (exec_confined (.fresh knottedTree ["box"]) hcwd "docker" .default listing knottedPolicy).2 hlet
  change Confined knottedTree ["box"] knottedPolicy listing.workDir ms at hconfined
  refine ⟨hlet, l, ms, hbinds, hconfined, ?_⟩
  obtain ⟨work, roots, writable, hdir, hroots, rfl, hwritable⟩ := hconfined.mounted
  obtain rfl : work = some ["box"] := by
    rw [show listing.workDir = some "back/link/.." from rfl, Option.mapM_some, hwork] at hdir
    exact (Except.ok.inj hdir).symm
  obtain rfl : roots = [["box", "docs"]] := by
    rw [show knottedPolicy.readOnlyPaths = ["/box/docs"] from rfl, mapM_cons_eq, hroot] at hroots
    exact (Except.ok.inj hroots).symm
  obtain rfl : writable = true := by
    refine (hwritable _ rfl).mpr fun root hmem => ⟨["box", "docs"], ?_, by decide⟩
    rw [List.mem_singleton.mp hmem, hroot]
  decide

end Container

end Turnstile
