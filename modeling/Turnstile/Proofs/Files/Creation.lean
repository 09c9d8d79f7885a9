import Turnstile.Proofs.Files.Route
/-!
# Making directories and writing files

What is made at the text of a place is made at that place, as long as
nothing on the way to it is a link (`Plain`). Making a directory and those
above it adds directories on the way to it where nothing was, and changes
nothing else (`Grown`); that much holds however far it gets
(`createFirst_grown`), and it leaves plain what was plain. A file is
written at the end of a way of directories, and nowhere else
(`write_eq_ok`).
-/

namespace Turnstile

namespace AbsPath

variable {p : AbsPath} {name : String}

/-! ## What is above a place, by its text -/

theorem text_eq_join (hne : p ≠ []) : p.text = Text.join "/" ("" :: p) := by
  obtain ⟨first, rest, rfl⟩ := List.exists_cons_of_ne_nil hne
  rw [text, Text.join_cons_cons, String.empty_append]

/-- The pieces of a place's text: one before the first slash, and the
names. -/
theorem splitOn_text (hp : Named p) (hne : p ≠ []) : Text.splitOn p.text '/' = "" :: p := by
  rw [text_eq_join hne]
  refine Text.splitOn_join (List.cons_ne_nil "" p) fun piece hpiece => ?_
  rcases List.mem_cons.mp hpiece with rfl | hpiece
  · decide
  · exact (hp piece hpiece).2.2

theorem isFiller_of_isName (h : Path.IsName name) (first : Bool) :
    Path.isFiller first name = false := by
  have hempty : name.isEmpty = false := by simpa using h.1
  have hdot : (name == ".") = false := by simpa using h.2.1
  rw [Path.isFiller, hempty, hdot, Bool.false_and, Bool.or_false]

/-- Names are no fillers, and only fillers are trimmed. -/
theorem trimFillers_reverse (hp : Named p) :
    Path.trimFillers (p.reverse ++ [""]) = if p = [] then [] else p.reverse ++ [""] := by
  rcases List.eq_nil_or_concat' p with rfl | ⟨init, last, rfl⟩
  · rfl
  · have hlast := isFiller_of_isName (hp last (by simp)) false
    rw [List.reverse_append, List.reverse_singleton, List.singleton_append, List.cons_append,
      if_neg (by simp)]
    cases hrest : init.reverse ++ [""] with
    | nil => simp at hrest
    | cons next rest => rw [Path.trimFillers, hlast, if_neg Bool.false_ne_true]; simp

theorem backwards_text (hp : Named p) (hne : p ≠ []) :
    Path.backwards p.text = (p.reverse ++ [""], true) := by
  rw [Path.backwards, splitOn_text hp hne, isAbsolute_text, if_pos rfl, List.tail_cons,
    List.reverse_cons, trimFillers_reverse hp, if_neg hne]

/-- Put together again, the pieces of a place are its text. -/
theorem join_trimFillers_reverse (hp : Named p) :
    (if true && (Text.join "/" (Path.trimFillers (p.reverse ++ [""])).reverse).isEmpty then "/"
      else Text.join "/" (Path.trimFillers (p.reverse ++ [""])).reverse) = p.text := by
  rw [trimFillers_reverse hp]
  by_cases hne : p = []
  · subst hne
    rfl
  · have hkept : p.text.isEmpty = false := by simp [text]
    rw [if_neg hne, List.reverse_append, List.reverse_reverse, List.reverse_singleton,
      List.singleton_append, ← text_eq_join hne, hkept, Bool.and_false, if_neg Bool.false_ne_true]

/-- **Without its last name** the text of a place is that of the directory
it is in. -/
theorem parent?_text (hp : Named (p ++ [name])) :
    Path.parent? (text (p ++ [name])) = some p.text := by
  rw [Path.parent?, backwards_text hp (by simp), List.reverse_append, List.reverse_singleton,
    List.singleton_append, List.cons_append]
  exact congrArg some (join_trimFillers_reverse (named_append.mp hp).1)

/-- The root is in nothing. -/
theorem parent?_root : Path.parent? (text []) = none := by decide

theorem ancestors_root : Path.ancestors (text []) = [] := by decide

/-- **Above a place** are the directory it is in, and what is above that. -/
theorem ancestors_text (hp : Named (p ++ [name])) :
    Path.ancestors (text (p ++ [name])) = text (p ++ [name]) :: Path.ancestors p.text := by
  have hinit := (named_append.mp hp).1
  have hlast := isFiller_of_isName (hp name (by simp)) false
  have habove : Path.ancestorsOf (p.reverse ++ [""]) = Path.ancestors p.text := by
    by_cases hne : p = []
    · subst hne
      decide
    · rw [Path.ancestors, backwards_text hinit hne]
  have hrest : (p.reverse ++ [""]).isEmpty = false := by simp
  rw [Path.ancestors, backwards_text hp (by simp), List.reverse_append, List.reverse_singleton,
    List.singleton_append, List.cons_append, Path.ancestorsOf, hrest, hlast,
    if_neg Bool.false_ne_true, habove, text_eq_join (p := p ++ [name]) (by simp)]
  simp

end AbsPath

namespace Place

/-- What is there, if anything is. -/
def entry? : Place → Option Entry
  | .found _ entry => some entry
  | .missing _ _ => none

end Place

namespace FileTree

variable {t t' t'' : FileTree} {follow : Bool} {here p q : AbsPath} {names : List String}
variable {expand : AbsPath → List String → Except FileFailure Place} {cwd : AbsPath}

/-- Whether everything lies in a directory can be read off the entries. -/
theorem rooted_of_entries (h : ∀ e ∈ t.entries, t.entry? e.1.dropLast = some .directory) :
    t.Rooted := by
  intro p name hthere
  have hne : (p ++ [name]).isEmpty = false := by simp
  rw [FileTree.entry?, hne, if_neg Bool.false_ne_true, Keyed.find?, ne_eq, Option.map_eq_none_iff,
    List.find?_eq_none] at hthere
  push Not at hthere
  obtain ⟨e, hmem, hkey⟩ := hthere
  have hplace : e.1 = p ++ [name] := by simpa using hkey
  have hdirectory := h e hmem
  rwa [hplace, List.dropLast_concat] at hdirectory

/-! ## Ways without a link -/

/-- No place on the way to it is a link, and neither is the place. -/
def Plain (t : FileTree) (p : AbsPath) : Prop :=
  ∀ q, q <+: p → ∀ target, t.entry? q ≠ some (.link target)

theorem Plain.of_prefix (hp : Plain t p) (h : q <+: p) : Plain t q :=
  fun r hr => hp r (hr.trans h)

theorem linkFree_of_entry_ne_link
    (h : ∀ q, q <+: names → ∀ target, t.entry? (here ++ q) ≠ some (.link target)) :
    LinkFree t here names := by
  induction names generalizing here with
  | nil => trivial
  | cons name rest ih =>
    refine ⟨h [name] (List.prefix_append [name] rest), fun _ => ih fun q hq target => ?_⟩
    rw [List.append_assoc]
    exact h (name :: q) ((List.prefix_cons_inj name).mpr hq) target

/-- Walking there meets no link. -/
theorem Plain.linkFree (hp : Plain t p) : LinkFree t [] p := linkFree_of_entry_ne_link hp

/-- **One step of a walk that succeeds**, past a name that leads down to no
link: on into a directory, or to the end. -/
theorem walkFrom_cons_cases {name : String} (hname : Path.IsName name ∧ name ≠ "..")
    (hlink : ∀ target, t.entry? (here ++ [name]) ≠ some (.link target)) {place : Place}
    (hw : walkFrom t follow expand here (name :: names) = .ok place) :
    (t.entry? (here ++ [name]) = some .directory ∧
      walkFrom t follow expand (here ++ [name]) names = .ok place) ∨
    (names = [] ∧ t.entry? (here ++ [name]) = place.entry?) := by
  rw [walkFrom, if_neg hname.1.2.1, if_neg hname.2] at hw
  split at hw
  · cases hw
  · cases he : t.entry? (here ++ [name]) with
    | none =>
      simp only [he] at hw
      split at hw
      · rename_i hend
        cases hw
        exact Or.inr ⟨List.isEmpty_iff.mp hend, rfl⟩
      · cases hw
    | some there =>
      cases there with
      | directory =>
        simp only [he] at hw
        exact Or.inl ⟨rfl, hw⟩
      | link target => exact absurd he (hlink target)
      | _ =>
        simp only [he] at hw
        split at hw
        · rename_i hend
          cases hw
          exact Or.inr ⟨List.isEmpty_iff.mp hend, rfl⟩
        · cases hw

/-- **What a walk that succeeds has gone through**: directories down to its
last name, and there what it tells of. -/
theorem entries_of_walkFrom (hd : AbsPath.Direct names) (h : LinkFree t here names)
    (hhere : t.entry? here = some .directory) {place : Place}
    (hw : walkFrom t follow expand here names = .ok place) :
    (∀ q, q <+: names → q ≠ names → t.entry? (here ++ q) = some .directory) ∧
      t.entry? (here ++ names) = place.entry? := by
  induction names generalizing here with
  | nil =>
    rw [walkFrom, Except.ok.injEq] at hw
    subst hw
    refine ⟨fun q hq hne => absurd (List.prefix_nil.mp hq) hne, ?_⟩
    rw [List.append_nil]
    exact hhere
  | cons name rest ih =>
    obtain ⟨hname, hrest⟩ := AbsPath.direct_cons.mp hd
    have hassoc (q : List String) : here ++ name :: q = here ++ [name] ++ q := by simp
    -- a way is empty, or goes through the first name
    have hway {goal : List String → Prop} (hnil : goal [])
        (hmore : ∀ more, more <+: rest → more ≠ rest → goal (name :: more)) (q : List String)
        (hq : q <+: name :: rest) (hne : q ≠ name :: rest) : goal q := by
      cases q with
      | nil => exact hnil
      | cons first more =>
        obtain ⟨rfl, hpre⟩ := List.cons_prefix_cons.mp hq
        exact hmore more hpre fun heq => hne (heq ▸ rfl)
    rcases walkFrom_cons_cases hname h.1 hw with ⟨hdir, hrun⟩ | ⟨rfl, hplace⟩
    · obtain ⟨habove, hplace⟩ := ih hrest (h.2 hdir) hdir hrun
      refine ⟨hway (by rwa [List.append_nil]) fun more hpre hne => ?_, by rwa [hassoc]⟩
      rw [hassoc]
      exact habove more hpre hne
    · exact ⟨hway (by rwa [List.append_nil]) fun more hpre hne =>
        absurd (List.prefix_nil.mp hpre) hne, hplace⟩

/-- The same of the text of a place. -/
theorem entries_of_locate (hd : p.Direct) (hp : Plain t p) {place : Place}
    (h : t.locate follow cwd p.text = .ok place) :
    (∀ q, q <+: p → q ≠ p → t.entry? q = some .directory) ∧ t.entry? p = place.entry? := by
  obtain ⟨_, hloc⟩ := locate_text t follow hd cwd
  rw [hloc] at h
  split at h
  · cases h
  · split at h
    · cases h
    · exact entries_of_walkFrom hd hp.linkFree rfl h

/-! ## Making directories -/

/-- A path that does not end in a slash is left as it is. -/
theorem withoutFinalSlashes_eq {path : String} (h : Text.endsWith path "/" = false) :
    withoutFinalSlashes path = path := by
  rcases List.eq_nil_or_concat' path.toList with hpath | ⟨init, last, hpath⟩
  · have hempty : path = "" := by simpa using hpath
    subst hempty
    decide
  · have hlast : (last == '/') = false := by
      by_contra hslash
      rw [Bool.not_eq_false, beq_iff_eq] at hslash
      rw [Text.endsWith, hpath, hslash, Bool.eq_false_iff] at h
      exact h (List.isSuffixOf_iff_suffix.mpr (List.suffix_append init ['/']))
    have htrimmed : Text.trimEnd (fun c => c == '/') path = path := by
      rw [Text.trimEnd, Text.dropEndWhile, hpath, List.reverse_append, List.reverse_singleton,
        List.singleton_append, List.dropWhile_cons_of_neg (by simp [hlast]), List.reverse_cons,
        List.reverse_reverse, ← hpath, String.ofList_toList]
    rw [withoutFinalSlashes, htrimmed]
    split <;> rfl

theorem withoutFinalSlashes_text (hp : p.Named) : withoutFinalSlashes p.text = p.text := by
  by_cases hne : p = []
  · subst hne
    decide
  · exact withoutFinalSlashes_eq (AbsPath.endsWith_text hp hne)

/-- The trees differ in directories only, that are on the way to a place
where nothing was. -/
def Grown (t t' : FileTree) (p : AbsPath) : Prop :=
  ∀ q, t'.entry? q = t.entry? q ∨
    (q <+: p ∧ t.entry? q = none ∧ t'.entry? q = some .directory)

theorem Grown.refl (t : FileTree) (p : AbsPath) : Grown t t p := fun _ => Or.inl rfl

theorem Grown.trans (h : Grown t t' p) (h' : Grown t' t'' p) : Grown t t'' p := by
  intro q
  rcases h q with hsame | ⟨hpre, hnone, hdir⟩
  · rw [← hsame]
    exact h' q
  · rcases h' q with hsame' | ⟨-, hnone', -⟩
    · exact Or.inr ⟨hpre, hnone, by rw [hsame', hdir]⟩
    · rw [hdir] at hnone'
      cases hnone'

theorem Grown.mono (h : Grown t t' q) (hpre : q <+: p) : Grown t t' p := by
  intro r
  rcases h r with hsame | ⟨hr, hwas⟩
  · exact Or.inl hsame
  · exact Or.inr ⟨hr.trans hpre, hwas⟩

/-- What was plain is plain in a tree with more directories. -/
theorem Grown.plain (h : Grown t t' q) (hp : Plain t p) : Plain t' p := by
  intro r hr target
  rcases h r with hsame | ⟨-, -, hdir⟩
  · rw [hsame]
    exact hp r hr target
  · rw [hdir]
    exact nofun

/-- A directory was made where nothing was. -/
theorem grown_put (hne : p ≠ []) (hnone : t.entry? p = none) :
    Grown t (t.put p .directory) p := by
  intro q
  rw [entry?_put hne]
  by_cases hq : p = q
  · subst hq
    exact Or.inr ⟨List.prefix_rfl, hnone, if_pos rfl⟩
  · exact Or.inl (if_neg hq)

/-- **Making a directory** at the text of a place makes it there. -/
theorem createDirectory_grown (hd : p.Direct) (hp : Plain t p)
    (h : t.createDirectory cwd p.text = .ok t') : Grown t t' p := by
  rw [createDirectory, withoutFinalSlashes_text hd.named] at h
  split at h
  · cases h
  · rename_i directory name hloc
    cases h
    have hplace : directory ++ [name] = p := (path_of_locate hd hp.linkFree hloc).1
    have hnone := (entries_of_locate hd hp hloc).2
    rw [hplace]
    exact grown_put (by simp [← hplace]) hnone
  · cases h

/-- **However far making a directory and those above it gets**, it has made
nothing but directories on the way. -/
theorem createFirst_grown (hd : p.Direct) (hp : Plain t p) :
    Grown t (createFirst cwd (Path.ancestors p.text) t).1 p := by
  -- down from the place: what is made above it is on the way to it, too
  induction p using List.reverseRecOn generalizing t with
  | nil =>
    rw [AbsPath.ancestors_root]
    exact .refl t []
  | append_singleton init last ih =>
    have hinit : init <+: init ++ [last] := List.prefix_append init [last]
    have habove := (ih (hd.of_prefix hinit) (hp.of_prefix hinit)).mono hinit
    rw [AbsPath.ancestors_text hd.named, createFirst]
    split
    · rename_i made hmade
      exact createDirectory_grown hd hp hmade
    · split
      · rename_i above problem habove'
        rw [habove'] at habove
        exact habove
      · rename_i above habove'
        rw [habove'] at habove
        split
        · rename_i made hmade
          exact habove.trans (createDirectory_grown hd (habove.plain hp) hmade)
        · exact habove
    · exact .refl t _

/-! ## Writing a file -/

/-- The content of a file; nothing has none. -/
def content (t : FileTree) (p : AbsPath) : Bytes :=
  match t.entry? p with
  | some (.file content _) => content
  | _ => []

/-- **Writing at the text of a place** goes through directories, and puts
a file there, unless the null device takes what is written. -/
theorem write_eq_ok (hd : p.Direct) (hp : Plain t p) {append : Bool} {bytes : Bytes}
    (h : t.write cwd p.text append bytes = .ok t') :
    p ≠ [] ∧ (∀ q, q <+: p → q ≠ p → t.entry? q = some .directory) ∧
      ((t.entry? p = some .device ∧ t' = t) ∨ t.entry? p ≠ some .device ∧ ∃ executable,
        t' = t.put p (.file (if append then t.content p ++ bytes else bytes) executable)) := by
  -- the text of the root ends in a slash, and a path that does is refused
  have hne : p ≠ [] := by
    rintro rfl
    rw [write, if_pos (by decide)] at h
    split at h <;> cases h
  rw [write, AbsPath.endsWith_text hd.named hne, if_neg Bool.false_ne_true] at h
  cases hloc : t.locate true cwd p.text with
  | error e =>
    rw [hloc] at h
    cases h
  | ok place =>
    obtain ⟨habove, hentry⟩ := entries_of_locate hd hp hloc
    obtain ⟨hplace, hlink⟩ := path_of_locate hd hp.linkFree hloc
    refine ⟨hne, habove, ?_⟩
    rw [content, hentry]
    rw [hloc] at h
    cases place with
    | missing directory name =>
      cases h
      refine Or.inr ⟨nofun, false, ?_⟩
      change directory ++ [name] = p at hplace
      rw [hplace]
      cases append <;> rfl
    | found q entry =>
      change q = p at hplace
      subst hplace
      cases entry with
      | directory => cases h
      | link target => cases hlink q _ rfl
      | file old executable =>
        cases h
        exact Or.inr ⟨nofun, executable, rfl⟩
      | program name =>
        cases h
        refine Or.inr ⟨nofun, true, ?_⟩
        cases append <;> rfl
      | device =>
        cases h
        exact Or.inl ⟨rfl, rfl⟩

end FileTree

end Turnstile
