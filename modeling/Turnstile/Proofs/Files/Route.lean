import Turnstile.Proofs.Files.Walk
import Mathlib.Data.List.Induction
/-!
# Routes — how a resolution goes, step by step

The system keeps one list of names still to be walked and puts a link's
target in front of it. A `Route` tells the same walk as a tree: what a
link leads to is a route of its own, and the names behind the link go on
from where that one ended. It counts the links and lists the places met,
in order. Every resolution that finds something is a route
(`route_of_walk`), with as many links as the limit allows and with the
places `met` lists.

Whether the text of a place is one the system takes (`AbsPath.Nameable`)
is no condition of a route: a walk that goes on from a directory never
writes that directory's path out.
-/

namespace Turnstile

namespace Text

/-- Joining, one piece after another. -/
theorem join_cons_cons (sep piece next : String) (rest : List String) :
    join sep (piece :: next :: rest) = piece ++ sep ++ join sep (next :: rest) := rfl

/-- A joined text begins with its first pieces joined. -/
theorem exists_join_append (sep : String) (pieces more : List String) :
    ∃ rest, join sep (pieces ++ more) = join sep pieces ++ rest := by
  induction pieces with
  | nil => exact ⟨join sep more, by simp [join]⟩
  | cons piece rest ih =>
    obtain ⟨tail, htail⟩ := ih
    cases rest with
    | nil =>
      cases more with
      | nil => exact ⟨"", by simp⟩
      | cons next more =>
        refine ⟨sep ++ join sep (next :: more), ?_⟩
        rw [List.singleton_append, join_cons_cons, join, String.append_assoc]
    | cons next rest =>
      refine ⟨tail, ?_⟩
      rw [List.cons_append, List.cons_append, join_cons_cons, ← List.cons_append, htail,
        join_cons_cons]
      simp only [String.append_assoc]

end Text

namespace AbsPath

/-- The place can be named: its text is one the system takes as a path. -/
structure Nameable (p : AbsPath) : Prop where
  noNul : '\x00' ∉ p.text.toList
  fits : p.text.utf8ByteSize ≤ FileTree.longestPath

instance (p : AbsPath) : Decidable p.Nameable :=
  decidable_of_iff ('\x00' ∉ p.text.toList ∧ p.text.utf8ByteSize ≤ FileTree.longestPath)
    ⟨fun h => ⟨h.1, h.2⟩, fun h => ⟨h.noNul, h.fits⟩⟩

theorem nameable_root : Nameable [] where
  noNul := by decide
  fits := by decide

/-- What is above a place that can be named can be named. -/
theorem Nameable.of_prefix {p q : AbsPath} (hp : Nameable p) (h : q <+: p) : Nameable q := by
  obtain ⟨more, rfl⟩ := h
  obtain ⟨rest, hrest⟩ := Text.exists_join_append "/" q more
  have htext : text (q ++ more) = text q ++ rest := by
    rw [text, hrest, text, String.append_assoc]
  refine ⟨fun hnul => hp.noNul ?_, ?_⟩
  · rw [htext, String.toList_append]
    exact List.mem_append_left _ hnul
  · have hfits := hp.fits
    rw [htext, String.utf8ByteSize_append] at hfits
    omega

end AbsPath

namespace Path

/-- A step of a path is a name, or stays where it is. -/
theorem isName_of_mem_steps {path name : String} (h : name ∈ steps path) :
    name = "." ∨ IsName name := by
  rw [steps, List.mem_append] at h
  rcases h with h | h
  · by_cases hdot : name = "."
    · exact Or.inl hdot
    · exact Or.inr (Guard.named_names path name (List.mem_filter.mpr ⟨h, by simpa using hdot⟩))
  · split at h
    · exact Or.inl (List.mem_singleton.mp h)
    · cases h

/-- Where a path starts from that is read in a directory. -/
def start (here : AbsPath) (path : String) : AbsPath := if isAbsolute path then [] else here

/-- The steps that lead somewhere are the names the guard reads. -/
theorem filter_steps (path : String) : (steps path).filter (· != ".") = Guard.names path := by
  rw [steps, List.filter_append, Guard.names]
  split <;> simp

end Path

namespace FileTree

variable {t : FileTree} {here p : AbsPath} {names : List String} {name : String}

/-! ## Directories to start from -/

/-- A directory a resolution can start from, as the current directory of
a process is one: its names lead down, it and everything above it are
directories, and no name is too long to be one. -/
structure Standing (t : FileTree) (p : AbsPath) : Prop where
  direct : p.Direct
  directory : ∀ q, q <+: p → t.entry? q = some .directory
  fits : ∀ name ∈ p, name.utf8ByteSize ≤ longestName

theorem standing_root (t : FileTree) : Standing t [] where
  direct name h := by cases h
  directory q hq := by
    rw [List.prefix_nil.mp hq]
    rfl
  fits name h := by cases h

theorem Standing.of_prefix (hp : Standing t p) {q : AbsPath} (h : q <+: p) : Standing t q where
  direct := hp.direct.of_prefix h
  directory r hr := hp.directory r (hr.trans h)
  fits name hname := hp.fits name (h.subset hname)

/-- A path read there starts from such a directory. -/
theorem Standing.start (hp : Standing t p) (path : String) : Standing t (Path.start p path) := by
  rw [Path.start]
  split
  · exact standing_root t
  · exact hp

/-- One directory further down. -/
theorem Standing.append_singleton (hp : Standing t p) (hname : Path.IsName name ∧ name ≠ "..")
    (hsize : name.utf8ByteSize ≤ longestName) (he : t.entry? (p ++ [name]) = some .directory) :
    Standing t (p ++ [name]) where
  direct := AbsPath.direct_append.mpr ⟨hp.direct, fun n hn => by rwa [List.mem_singleton.mp hn]⟩
  directory q hq := by
    rcases List.prefix_concat_iff.mp hq with rfl | hq
    · exact he
    · exact hp.directory q hq
  fits n hn := by
    rcases List.mem_append.mp hn with hn | hn
    · exact hp.fits n hn
    · rwa [List.mem_singleton.mp hn]

/-- Walking down to it takes its names one by one. -/
theorem Standing.walkFrom_append {follow : Bool}
    {expand : AbsPath → List String → Except FileFailure Place} {rest : List String}
    (h : Standing t (here ++ names)) :
    walkFrom t follow expand here (names ++ rest) =
      walkFrom t follow expand (here ++ names) rest := by
  induction names generalizing here with
  | nil => rw [List.nil_append, List.append_nil]
  | cons name more ih =>
    have hassoc : here ++ name :: more = here ++ [name] ++ more := by simp
    have hname := h.direct name (by simp)
    have hsize := h.fits name (by simp)
    have he : t.entry? (here ++ [name]) = some .directory := by
      refine h.directory _ ?_
      rw [hassoc]
      exact List.prefix_append _ more
    rw [hassoc] at h ⊢
    rw [List.cons_append, walkFrom, if_neg hname.1.2.1, if_neg hname.2,
      if_neg (Nat.not_lt.mpr hsize)]
    simp only [he]
    exact ih h

/-- **Looking at a place in such a directory** shows what is there, if its
text can be written. -/
theorem Standing.lstat_append_singleton (hp : Standing t p)
    (hname : Path.IsName name ∧ name ≠ "..") (hsize : name.utf8ByteSize ≤ longestName)
    (hnameable : (p ++ [name]).Nameable) {entry : Entry}
    (he : t.entry? (p ++ [name]) = some entry) : t.lstat (p ++ [name]) = .ok entry := by
  have hdirect : AbsPath.Direct (p ++ [name]) :=
    AbsPath.direct_append.mpr ⟨hp.direct, fun n hn => by rwa [List.mem_singleton.mp hn]⟩
  obtain ⟨expand, hloc⟩ := locate_text t false hdirect []
  rw [if_neg (by simpa using hnameable.noNul), if_neg (Nat.not_lt.mpr hnameable.fits)] at hloc
  have hstand : Standing t ([] ++ p) := hp
  rw [hstand.walkFrom_append, List.nil_append, walkFrom, if_neg hname.1.2.1, if_neg hname.2,
    if_neg (Nat.not_lt.mpr hsize)] at hloc
  apply lstat_of_locate (q := p ++ [name])
  rw [hloc, he]
  cases entry <;> simp [walkFrom]

/-- Looking at a place that cannot be named fails, and not because
nothing is there. -/
theorem lstat_of_not_nameable (hp : p.Direct) (h : ¬ p.Nameable) :
    ∃ e, t.lstat p = .error e ∧ e ≠ .notFound := by
  obtain ⟨expand, hloc⟩ := locate_text t false hp []
  by_cases hnul : p.text.toList.contains '\x00' = true
  · rw [if_pos hnul] at hloc
    exact ⟨_, lstat_of_locate_error hloc, by decide⟩
  · have hlong : longestPath < p.text.utf8ByteSize := by
      by_contra hle
      exact h ⟨by simpa using hnul, Nat.not_lt.mp hle⟩
    rw [if_neg hnul, if_pos hlong] at hloc
    exact ⟨_, lstat_of_locate_error hloc, by decide⟩

/-- What is put at a place is there, and nothing else has changed. -/
theorem entry?_put {e : Entry} (hne : p ≠ []) (q : AbsPath) :
    FileTree.entry? (t.put p e) q = if p = q then some e else t.entry? q := by
  have hp : p.isEmpty = false := by simpa using hne
  rw [put, hp, if_neg Bool.false_ne_true, entry?, entry?, Keyed.find?_insert]
  by_cases hq : q = []
  · subst hq
    simp [hne]
  · simp [hq]

/-- A directory stays one that a resolution can start from, whatever is put
elsewhere than on the way to it. -/
theorem Standing.put {e : Entry} (hhere : Standing t here) (h : ¬ p <+: here) :
    Standing (t.put p e) here where
  direct := hhere.direct
  directory r hr := by
    have hne : p ≠ [] := by
      rintro rfl
      exact h List.nil_prefix
    have hother : p ≠ r := by
      rintro rfl
      exact h hr
    rw [entry?_put hne, if_neg hother]
    exact hhere.directory r hr
  fits := hhere.fits

/-! ## The places met -/

/-- The places met while names are walked below a directory; `expand`
lists those met beyond a link. -/
def metFrom (t : FileTree) (expand : AbsPath → List String → List AbsPath) :
    AbsPath → List String → List AbsPath
  | _, [] => []
  | here, name :: rest =>
    if name = "." then metFrom t expand here rest
    else if name = ".." then metFrom t expand here.dropLast rest
    else
      (here ++ [name]) ::
        match t.entry? (here ++ [name]) with
        | some .directory => metFrom t expand (here ++ [name]) rest
        | some (.link target) =>
          expand (Path.start here target) (Path.steps target ++ rest)
        | _ => []

/-- The places met with at most so many links followed. -/
def metWithin (t : FileTree) : Nat → AbsPath → List String → List AbsPath
  | 0 => metFrom t fun _ _ => []
  | links + 1 => metFrom t (metWithin t links)

/-- **The places met when the system resolves a path**: the directory it
starts from, and then each one it looks a name up for. -/
def met (t : FileTree) (cwd : AbsPath) (path : String) : List AbsPath :=
  Path.start cwd path :: t.metWithin linkLimit (Path.start cwd path) (Path.steps path)

/-! ## Routes -/

/-- From one place to another along names, with so many links followed and
these places met. A step is taken from a directory only. -/
inductive Route (t : FileTree) :
    Nat → List AbsPath → AbsPath × Entry → List String → AbsPath × Entry → Prop
  /-- No names are left. -/
  | arrived (a : AbsPath × Entry) : Route t 0 [] a [] a
  /-- A dot leads nowhere else. -/
  | stay {n : Nat} {ps : List AbsPath} {here : AbsPath} {rest : List String}
      {b : AbsPath × Entry} :
      Route t n ps (here, .directory) rest b →
      Route t n ps (here, .directory) ("." :: rest) b
  /-- Two dots lead up. -/
  | up {n : Nat} {ps : List AbsPath} {here : AbsPath} {rest : List String}
      {b : AbsPath × Entry} :
      Route t n ps (here.dropLast, .directory) rest b →
      Route t n ps (here, .directory) (".." :: rest) b
  /-- A name leads down to what is there, if that is no link. -/
  | down {n : Nat} {ps : List AbsPath} {here : AbsPath} {name : String} {rest : List String}
      {entry : Entry} {b : AbsPath × Entry} :
      Path.IsName name ∧ name ≠ ".." → name.utf8ByteSize ≤ longestName →
      t.entry? (here ++ [name]) = some entry → entry.isLink = false →
      Route t n ps (here ++ [name], entry) rest b →
      Route t n ((here ++ [name]) :: ps) (here, .directory) (name :: rest) b
  /-- A link leads to where its target does, read where the link is. -/
  | link {n m : Nat} {ps qs : List AbsPath} {here : AbsPath} {name target : String}
      {rest : List String} {mid b : AbsPath × Entry} :
      Path.IsName name ∧ name ≠ ".." → name.utf8ByteSize ≤ longestName →
      t.entry? (here ++ [name]) = some (.link target) →
      Route t n ps (Path.start here target, .directory) (Path.steps target) mid →
      Route t m qs mid rest b →
      Route t (n + m + 1) ((here ++ [name]) :: (ps ++ qs)) (here, .directory) (name :: rest) b

/-- **A route can be interrupted** between any two names. -/
theorem Route.split {n : Nat} {ps : List AbsPath} {a b : AbsPath × Entry}
    {first second : List String} (h : Route t n ps a (first ++ second) b) :
    ∃ n₁ n₂ ps₁ ps₂ mid, n₁ + n₂ = n ∧ ps₁ ++ ps₂ = ps ∧
      Route t n₁ ps₁ a first mid ∧ Route t n₂ ps₂ mid second b := by
  induction first generalizing n ps a with
  | nil => exact ⟨0, n, [], ps, a, Nat.zero_add n, rfl, .arrived a, h⟩
  | cons name rest ih =>
    rw [List.cons_append] at h
    cases h with
    | stay hrest =>
      obtain ⟨n₁, n₂, ps₁, ps₂, mid, hn, hps, h₁, h₂⟩ := ih hrest
      exact ⟨n₁, n₂, ps₁, ps₂, mid, hn, hps, .stay h₁, h₂⟩
    | up hrest =>
      obtain ⟨n₁, n₂, ps₁, ps₂, mid, hn, hps, h₁, h₂⟩ := ih hrest
      exact ⟨n₁, n₂, ps₁, ps₂, mid, hn, hps, .up h₁, h₂⟩
    | down hname hsize he hlink hrest =>
      obtain ⟨n₁, n₂, ps₁, ps₂, mid, hn, hps, h₁, h₂⟩ := ih hrest
      exact ⟨n₁, n₂, _, ps₂, mid, hn, by rw [List.cons_append, hps],
        .down hname hsize he hlink h₁, h₂⟩
    | link hname hsize he htarget hrest =>
      obtain ⟨n₁, n₂, ps₁, ps₂, mid, hn, hps, h₁, h₂⟩ := ih hrest
      refine ⟨_, n₂, _, ps₂, mid, ?_, ?_, .link hname hsize he htarget h₁, h₂⟩
      · omega
      · rw [List.cons_append, List.append_assoc, hps]

/-- **Walking names is taking a route**, as long as going on from links
is. -/
theorem route_of_walkFrom {links : Nat} {q : AbsPath} {entry : Entry}
    {expand : AbsPath → List String → Except FileFailure Place}
    {metBeyond : AbsPath → List String → List AbsPath}
    (hexpand : ∀ start steps, (∀ name ∈ steps, name = "." ∨ Path.IsName name) →
      expand start steps = .ok (.found q entry) →
      ∃ n < links, Route t n (metBeyond start steps) (start, .directory) steps (q, entry))
    (hnames : ∀ name ∈ names, name = "." ∨ Path.IsName name)
    (h : walkFrom t true expand here names = .ok (.found q entry)) :
    ∃ n ≤ links, Route t n (metFrom t metBeyond here names) (here, .directory) names
      (q, entry) := by
  induction names generalizing here with
  | nil =>
    rw [walkFrom, Except.ok.injEq, Place.found.injEq] at h
    obtain ⟨rfl, rfl⟩ := h
    exact ⟨0, Nat.zero_le links, .arrived _⟩
  | cons name rest ih =>
    obtain ⟨hname, hrest⟩ := List.forall_mem_cons.mp hnames
    rw [walkFrom] at h
    rw [metFrom]
    by_cases hdot : name = "."
    · subst hdot
      rw [if_pos rfl] at h ⊢
      obtain ⟨n, hn, hroute⟩ := ih hrest h
      exact ⟨n, hn, .stay hroute⟩
    by_cases hup : name = ".."
    · subst hup
      rw [if_neg hdot, if_pos rfl] at h ⊢
      obtain ⟨n, hn, hroute⟩ := ih hrest h
      exact ⟨n, hn, .up hroute⟩
    rw [if_neg hdot, if_neg hup] at h ⊢
    have hname : Path.IsName name ∧ name ≠ ".." := ⟨hname.resolve_left hdot, hup⟩
    by_cases hlong : longestName < name.utf8ByteSize
    · rw [if_pos hlong] at h
      cases h
    rw [if_neg hlong] at h
    have hsize : name.utf8ByteSize ≤ longestName := Nat.not_lt.mp hlong
    -- what is at the name decides: nothing, a directory, a link, or something at the end
    cases he : t.entry? (here ++ [name]) with
    | none =>
      simp only [he] at h
      split at h <;> cases h
    | some there =>
      have hlast (hlink : there.isLink = false) (hend : rest = [])
          (hfound : Place.found (here ++ [name]) there = .found q entry) :
          ∃ n ≤ links, Route t n [here ++ [name]] (here, .directory) (name :: rest)
            (q, entry) := by
        obtain ⟨rfl, rfl⟩ := Place.found.inj hfound
        subst hend
        exact ⟨0, Nat.zero_le links, .down hname hsize he hlink (.arrived _)⟩
      cases there with
      | directory =>
        simp only [he] at h
        obtain ⟨n, hn, hroute⟩ := ih hrest h
        exact ⟨n, hn, .down hname hsize he rfl hroute⟩
      | link target =>
        simp only [he, Bool.not_true, Bool.and_false, Bool.false_eq_true, ↓reduceIte] at h
        have hsteps : ∀ name ∈ Path.steps target ++ rest, name = "." ∨ Path.IsName name :=
          List.forall_mem_append.mpr ⟨fun _ h => Path.isName_of_mem_steps h, hrest⟩
        obtain ⟨n, hn, hroute⟩ := hexpand (Path.start here target) _ hsteps h
        -- the target's names and those behind the link were walked as one list
        obtain ⟨n₁, n₂, ps₁, ps₂, mid, hsum, hps, h₁, h₂⟩ := hroute.split
        refine ⟨n₁ + n₂ + 1, by omega, ?_⟩
        dsimp only
        rw [← hps]
        exact .link hname hsize he h₁ h₂
      | _ =>
        simp only [he, List.isEmpty_iff] at h
        split at h
        · exact hlast rfl ‹_› (Except.ok.inj h)
        · cases h

/-- **However many links a walk may follow, it is a route.** -/
theorem route_of_walk {links : Nat} {q : AbsPath} {entry : Entry}
    (hnames : ∀ name ∈ names, name = "." ∨ Path.IsName name)
    (h : t.walk true links here names = .ok (.found q entry)) :
    ∃ n ≤ links, Route t n (t.metWithin links here names) (here, .directory) names
      (q, entry) := by
  induction links generalizing here names with
  | zero => exact route_of_walkFrom (fun _ _ _ h => by cases h) hnames h
  | succ links ih =>
    refine route_of_walkFrom (fun start steps hsteps h => ?_) hnames h
    obtain ⟨n, hn, hroute⟩ := ih hsteps h
    exact ⟨n, Nat.lt_succ_of_le hn, hroute⟩

/-- **A path that leads to something leads there by a route.** -/
theorem route_of_stat {cwd q : AbsPath} {path : String} {entry : Entry}
    (h : t.stat cwd path = .ok (q, entry)) :
    ∃ n ps, n ≤ linkLimit ∧
      t.met cwd path = Path.start cwd path :: ps ∧
      Route t n ps (Path.start cwd path, .directory) (Path.steps path) (q, entry) := by
  rw [stat, lookUp] at h
  split at h
  · cases h
  · cases h
  · rename_i p e hloc
    obtain ⟨rfl, rfl⟩ := Prod.mk.inj (Except.ok.inj h)
    rw [locate] at hloc
    split at hloc
    · cases hloc
    · split at hloc
      · cases hloc
      · split at hloc
        · cases hloc
        · obtain ⟨n, hn, hroute⟩ := route_of_walk (fun _ h => Path.isName_of_mem_steps h) hloc
          exact ⟨n, _, hn, rfl, hroute⟩

end FileTree

end Turnstile
