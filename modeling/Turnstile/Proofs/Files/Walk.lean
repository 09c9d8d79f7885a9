import Turnstile.Proofs.Files.Names
/-!
# Walks that meet no link

The system follows links as it walks down a path. Where the walk to a
place meets none (`LinkFree`), neither the directory it starts from nor
whether links are followed makes a difference (`locate_eq_of_linkFree`),
and it ends at that place and nowhere else (`path_of_locate`). A place is
link-free as soon as looking at everything on the way to it, one name
after another, shows no link (`linkFree_append_singleton`).
-/

namespace Turnstile

namespace AbsPath

/-- Every name leads down: none is empty, has a slash in it or is made of
one or two dots. -/
def Direct (p : AbsPath) : Prop := ∀ name ∈ p, Path.IsName name ∧ name ≠ ".."

theorem Direct.named {p : AbsPath} (hp : Direct p) : Named p := fun name h => (hp name h).1

theorem Direct.of_prefix {p q : AbsPath} (hp : Direct p) (h : q <+: p) : Direct q :=
  fun name hname => hp name (h.subset hname)

theorem direct_append {p q : AbsPath} : Direct (p ++ q) ↔ Direct p ∧ Direct q :=
  List.forall_mem_append

theorem direct_cons {name : String} {p : AbsPath} :
    Direct (name :: p) ↔ (Path.IsName name ∧ name ≠ "..") ∧ Direct p :=
  List.forall_mem_cons

end AbsPath

namespace Place

/-- The place a resolution ends at, whether something is there or not. -/
def path : Place → AbsPath
  | .found p _ => p
  | .missing directory name => directory ++ [name]

end Place

namespace FileTree

variable {t : FileTree} {follow follow' : Bool} {here : AbsPath} {names : List String}
variable {expand expand' : AbsPath → List String → Except FileFailure Place}

/-- Walking down the names from a directory meets no link. What lies below
something that is no directory is not met. -/
def LinkFree (t : FileTree) : AbsPath → List String → Prop
  | _, [] => True
  | here, name :: rest =>
    (∀ target, t.entry? (here ++ [name]) ≠ some (.link target)) ∧
      (t.entry? (here ++ [name]) = some .directory → LinkFree t (here ++ [name]) rest)

/-- **Where no link is met, following links makes no difference.** -/
theorem walkFrom_congr (hd : AbsPath.Direct names) (h : LinkFree t here names) :
    walkFrom t follow expand here names = walkFrom t follow' expand' here names := by
  induction names generalizing here with
  | nil => rfl
  | cons name rest ih =>
    obtain ⟨⟨hname, hup⟩, hrest⟩ := AbsPath.direct_cons.mp hd
    have hdot : name ≠ "." := hname.2.1
    rw [walkFrom, walkFrom, if_neg hdot, if_neg hup, if_neg hdot, if_neg hup]
    by_cases hlong : longestName < name.utf8ByteSize
    · rw [if_pos hlong, if_pos hlong]
    · rw [if_neg hlong, if_neg hlong]
      rcases he : t.entry? (here ++ [name]) with - | (- | - | target | - | -)
      · rfl
      · exact ih hrest (h.2 he)
      · rfl
      · exact absurd he (h.1 target)
      · rfl
      · rfl

/-- **A walk that meets no link ends where the names say**, and what it
finds there is no link. -/
theorem path_of_walkFrom (hd : AbsPath.Direct names) (h : LinkFree t here names) {place : Place}
    (hw : walkFrom t follow expand here names = .ok place) :
    place.path = here ++ names ∧ ∀ q entry, place = .found q entry → entry.isLink = false := by
  induction names generalizing here with
  | nil =>
    rw [walkFrom, Except.ok.injEq] at hw
    subst hw
    refine ⟨by simp [Place.path], fun q entry heq => ?_⟩
    obtain ⟨-, rfl⟩ := Place.found.inj heq
    rfl
  | cons name rest ih =>
    obtain ⟨⟨hname, hup⟩, hrest⟩ := AbsPath.direct_cons.mp hd
    have hdot : name ≠ "." := hname.2.1
    rw [walkFrom, if_neg hdot, if_neg hup] at hw
    split at hw
    · cases hw
    · rcases he : t.entry? (here ++ [name]) with - | e
      · simp only [he] at hw
        split at hw
        · rename_i hlast
          cases hw
          rw [List.isEmpty_iff] at hlast
          refine ⟨by simp [Place.path, hlast], fun q entry heq => ?_⟩
          cases heq
        · cases hw
      · by_cases hdir : e = .directory
        · subst hdir
          simp only [he] at hw
          have := ih hrest (h.2 he) hw
          rwa [List.append_assoc, List.singleton_append] at this
        · have hlink : e.isLink = false := by
            cases e with
            | link target => exact absurd he (h.1 target)
            | _ => rfl
          have hend : rest = [] ∧ place = .found (here ++ [name]) e := by
            cases e with
            | directory => exact absurd rfl hdir
            | link target => cases hlink
            | _ =>
              simp only [he] at hw
              split at hw
              · rename_i hlast
                cases hw
                exact ⟨List.isEmpty_iff.mp hlast, rfl⟩
              · cases hw
          obtain ⟨rfl, rfl⟩ := hend
          refine ⟨rfl, fun q entry heq => ?_⟩
          obtain ⟨-, rfl⟩ := Place.found.inj heq
          exact hlink

/-- **One name further.** The way stays link-free if looking at its new
end, a link not followed, neither shows a link nor fails for the length
of a name. -/
theorem linkFree_append_singleton {name : String}
    (expand : AbsPath → List String → Except FileFailure Place)
    (hd : AbsPath.Direct (names ++ [name])) (h : LinkFree t here names)
    (hlink : ∀ q target, walkFrom t false expand here (names ++ [name]) ≠
      .ok (.found q (.link target)))
    (hlong : walkFrom t false expand here (names ++ [name]) ≠ .error .nameTooLong) :
    LinkFree t here (names ++ [name]) := by
  induction names generalizing here with
  | nil =>
    obtain ⟨⟨hname, hup⟩, -⟩ := AbsPath.direct_cons.mp hd
    have hdot : name ≠ "." := hname.2.1
    rw [List.nil_append, walkFrom, if_neg hdot, if_neg hup] at hlong hlink
    refine ⟨fun target he => ?_, fun _ => trivial⟩
    by_cases hsize : longestName < name.utf8ByteSize
    · rw [if_pos hsize] at hlong
      exact hlong rfl
    · simp only [if_neg hsize, he] at hlink
      exact hlink _ _ rfl
  | cons first rest ih =>
    obtain ⟨⟨hname, hup⟩, hrest⟩ := AbsPath.direct_cons.mp hd
    have hdot : first ≠ "." := hname.2.1
    rw [List.cons_append, walkFrom, if_neg hdot, if_neg hup] at hlong hlink
    refine ⟨h.1, fun hdir => ?_⟩
    by_cases hsize : longestName < first.utf8ByteSize
    · rw [if_pos hsize] at hlong
      exact absurd rfl hlong
    · simp only [if_neg hsize, hdir] at hlong hlink
      exact ih hrest (h.2 hdir) hlink hlong

/-! ## Places by their texts -/

/-- The steps of a place's text lead where its names do. -/
theorem walkFrom_steps_text {p : AbsPath} (hp : p.Direct) :
    walkFrom t follow expand [] (Path.steps p.text) = walkFrom t follow expand [] p := by
  by_cases hne : p = []
  · subst hne
    have hroot : Path.steps (AbsPath.text []) = ["."] := by decide
    rw [hroot]
    simp [walkFrom]
  · rw [AbsPath.steps_text hp.named hne]

/-- A walk goes on from links in some way, whatever the limit. -/
theorem exists_walk_eq (t : FileTree) (follow : Bool) (links : Nat) :
    ∃ expand, walk t follow links = walkFrom t follow expand := by
  cases links with
  | zero => exact ⟨_, rfl⟩
  | succ links => exact ⟨_, rfl⟩

/-- **What a place's text leads to**: a failure on account of the text, or
what walking down the names gives. -/
theorem locate_text (t : FileTree) (follow : Bool) (hp : AbsPath.Direct names)
    (cwd : AbsPath) :
    ∃ expand, t.locate follow cwd (AbsPath.text names) =
      if (AbsPath.text names).toList.contains '\x00' then .error .nulInPath
      else if longestPath < (AbsPath.text names).utf8ByteSize then .error .nameTooLong
      else walkFrom t follow expand [] names := by
  obtain ⟨expand, hexpand⟩ := exists_walk_eq t follow linkLimit
  refine ⟨expand, ?_⟩
  have hempty : (AbsPath.text names).isEmpty = false := by simp [AbsPath.text]
  rw [locate, AbsPath.isAbsolute_text, hempty, hexpand, if_pos rfl, walkFrom_steps_text hp]
  rfl

variable {p : AbsPath}

/-- **Neither the directory it starts from nor whether links are followed
makes a difference** to where a link-free place's text leads. -/
theorem locate_eq_of_linkFree (hp : p.Direct) (h : LinkFree t [] p) (follow : Bool)
    (cwd : AbsPath) : t.locate follow cwd p.text = t.locate false [] p.text := by
  obtain ⟨_, hleft⟩ := locate_text t follow hp cwd
  obtain ⟨_, hright⟩ := locate_text t false hp []
  rw [hleft, hright, walkFrom_congr hp h]

/-- **The text of a link-free place leads there and nowhere else**, and
what is there is no link. -/
theorem path_of_locate (hp : p.Direct) (h : LinkFree t [] p) {cwd : AbsPath} {place : Place}
    (hl : t.locate follow cwd p.text = .ok place) :
    place.path = p ∧ ∀ q entry, place = .found q entry → entry.isLink = false := by
  obtain ⟨_, hloc⟩ := locate_text t follow hp cwd
  rw [hloc] at hl
  split at hl
  · cases hl
  · split at hl
    · cases hl
    · exact path_of_walkFrom hp h hl

/-- Looking at a place, a link at its end not followed, shows that there
is nothing, or something that is no link. -/
def NoLinkAt (t : FileTree) (p : AbsPath) : Prop :=
  t.lstat p = .error .notFound ∨ ∃ entry, t.lstat p = .ok entry ∧ entry.isLink = false

/-- What a resolution that found something tells of the place. -/
theorem lstat_of_locate {q : AbsPath} {entry : Entry}
    (h : t.locate false [] p.text = .ok (.found q entry)) : t.lstat p = .ok entry := by
  rw [lstat, lookUp, h]
  rfl

/-- A resolution that failed tells nothing else. -/
theorem lstat_of_locate_error {e : FileFailure} (h : t.locate false [] p.text = .error e) :
    t.lstat p = .error e := by
  rw [lstat, lookUp, h]
  rfl

/-- **Looking is enough.** Where the way to a directory meets no link and
looking at a name in it shows none, the way to that name meets none. -/
theorem LinkFree.append_singleton {name : String} (hd : AbsPath.Direct (p ++ [name]))
    (h : LinkFree t [] p) (hlook : t.NoLinkAt (p ++ [name])) : LinkFree t [] (p ++ [name]) := by
  obtain ⟨expand, hloc⟩ := locate_text t false hd []
  -- the text of the place was no obstacle, so what was seen is what the walk ends at
  have hwalk : t.locate false [] (AbsPath.text (p ++ [name])) =
      walkFrom t false expand [] (p ++ [name]) := by
    split at hloc
    · rw [NoLinkAt, lstat_of_locate_error hloc] at hlook
      simp at hlook
    · split at hloc
      · rw [NoLinkAt, lstat_of_locate_error hloc] at hlook
        simp at hlook
      · exact hloc
  refine linkFree_append_singleton expand hd h (fun q target hq => ?_) fun hlong => ?_
  · rw [NoLinkAt, lstat_of_locate (hwalk.trans hq)] at hlook
    simp [Entry.isLink] at hlook
  · rw [NoLinkAt, lstat_of_locate_error (hwalk.trans hlong)] at hlook
    simp at hlook

/-- Looking at a link-free place shows no link. -/
theorem LinkFree.lstat_ne_link (hp : p.Direct) (h : LinkFree t [] p) (target : String) :
    t.lstat p ≠ .ok (.link target) := by
  intro hlook
  rw [lstat, lookUp] at hlook
  split at hlook
  · cases hlook
  · cases hlook
  · rename_i q entry hloc
    have hentry := (path_of_locate hp h hloc).2 q entry rfl
    rw [Except.map, Except.ok.injEq] at hlook
    change entry = .link target at hlook
    rw [hlook] at hentry
    cases hentry

/-! ## Trees whose places lie in directories -/

/-- Everything lies in a directory, as in any tree a system keeps. -/
def Rooted (t : FileTree) : Prop :=
  ∀ p name, t.entry? (p ++ [name]) ≠ none → t.entry? p = some .directory

/-- So everything above something is a directory. -/
theorem Rooted.directory (ht : t.Rooted) {below : List String} (hne : below ≠ [])
    (h : t.entry? (here ++ below) ≠ none) : t.entry? here = some .directory := by
  induction below generalizing here with
  | nil => exact absurd rfl hne
  | cons name rest ih =>
    rw [← List.singleton_append, ← List.append_assoc] at h
    by_cases hrest : rest = []
    · subst hrest
      rw [List.append_nil] at h
      exact ht here name h
    · have hdir := ih hrest h
      exact ht here name (by rw [hdir]; simp)

/-- **In such a tree no entry on the way to a link-free place is a link.** -/
theorem LinkFree.entry_ne_link (ht : t.Rooted) (h : LinkFree t here names) (hne : names ≠ [])
    (target : String) : t.entry? (here ++ names) ≠ some (.link target) := by
  induction names generalizing here with
  | nil => exact absurd rfl hne
  | cons name rest ih =>
    by_cases hrest : rest = []
    · subst hrest
      exact h.1 target
    · intro he
      rw [← List.singleton_append, ← List.append_assoc] at he
      exact ih (h.2 (ht.directory hrest (by rw [he]; simp))) hrest he

end FileTree

end Turnstile
