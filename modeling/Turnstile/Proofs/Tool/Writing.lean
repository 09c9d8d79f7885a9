import Turnstile.Proofs.Files.Creation
import Turnstile.Proofs.Guard.Soundness
import Turnstile.Proofs.Tool.Refusal
/-!
# What writing a file changes

Once the guard has answered, writing a file is a matter of the tree alone
(`execute_on`). Under a policy that restricts paths the guard's answer is a
place without a link on the way to it, so the directories made are above
that place and the file is put there: nothing else changes
(`written_ok`, `written_error`). A read-only root that holds a place that
changed would hold the guard's answer as well, so there is none.
-/

namespace Turnstile

namespace WriteFileTool

/-- Make sure of the directory a path is in, on a tree. -/
def parentMade (t : FileTree) (cwd : AbsPath) (path : String) (createDirs : Bool) :
    Except ToolError Unit × FileTree :=
  match Path.parent? path with
  | none => (.ok (), t)
  | some parent =>
    if t.pathExists cwd parent then (.ok (), t)
    else if !createDirs then
      (.error (.execution ("Parent directory does not exist: " ++ parent)), t)
    else
      match t.createDirectories cwd parent with
      | (t, some cause) => (.error (FileTool.failed "create" parent cause), t)
      | (t, none) => (.ok (), t)

/-- What is answered once a file is written. -/
def answer (path : String) (args : Args) : String :=
  (if args.append then "Appended " else "Wrote ") ++
    toString (Utf8.encode args.content).length ++ " bytes to " ++ path

/-- Write a file behind a path, on a tree. -/
def written (t : FileTree) (cwd : AbsPath) (path : String) (args : Args) :
    Except ToolError String × FileTree :=
  match parentMade t cwd path args.createDirs with
  | (.error e, t) => (.error e, t)
  | (.ok (), t) =>
    match t.write cwd path args.append (Utf8.encode args.content) with
    | .error cause => (.error (FileTool.failed "open" path cause), t)
    | .ok t => (.ok (answer path args), t)

/-! ## A matter of the tree -/

theorem ensureParent_on (path : String) (createDirs : Bool) (w : World) :
    (ensureParent path createDirs).on w =
      ((parentMade w.files w.cwd path createDirs).1,
        { w with files := (parentMade w.files w.cwd path createDirs).2 }) := by
  rw [ensureParent, Act.on_bind, Act.on_look, parentMade]
  dsimp only
  cases Path.parent? path with
  | none => rfl
  | some parent =>
    dsimp only
    by_cases hexists : w.files.pathExists w.cwd parent = true
    · rw [if_pos hexists, if_pos hexists]
      rfl
    · rw [if_neg hexists, if_neg hexists]
      cases createDirs with
      | false => rfl
      | true =>
        rw [Bool.not_true, if_neg Bool.false_ne_true, if_neg Bool.false_ne_true]
        rcases w.files.createDirectories w.cwd parent with ⟨t, - | cause⟩ <;> rfl

/-- **Writing, on a world**: the input is read, the guard asked, and the
rest is done on the tree. -/
theorem execute_on (input : Json) (policy : Policy) (w : World) :
    (execute input policy).on w =
      match Args.reader Source.value (Doc.ofJson input) with
      | .error mismatch => (.error (.invalidInput mismatch.message), w)
      | .ok args =>
        match Guard.checkWrite w.files w.cwd policy args.path with
        | .error refusal => (.error (.ofRefusal refusal), w)
        | .ok checked =>
          ((written w.files w.cwd checked.text args).1,
            { w with files := (written w.files w.cwd checked.text args).2 }) := by
  rw [execute, Act.on_bind, Tool.input]
  cases Args.reader Source.value (Doc.ofJson input) with
  | error mismatch => rfl
  | ok args =>
    dsimp only
    rw [Act.on_pure]
    dsimp only
    rw [Act.on_bind, FileTool.guarded, Act.on_bind, Act.on_look]
    dsimp only
    rw [Act.on_bind, Act.on_orElse, Act.on_ofExcept]
    cases Guard.checkWrite w.files w.cwd policy args.path with
    | error refusal => rfl
    | ok checked =>
      dsimp only [Except.mapError]
      rw [Act.on_pure]
      dsimp only
      rw [Act.on_bind, ensureParent_on, written]
      rcases parentMade w.files w.cwd checked.text args.createDirs with ⟨e | ⟨⟩, t⟩
      · rfl
      · dsimp only
        rw [Act.on_bind, Act.on_look]
        dsimp only
        cases t.write w.cwd checked.text args.append (Utf8.encode args.content) with
        | error cause => rfl
        | ok t => rfl

section

variable {input : Json} {policy : Policy} {w after : World}

/-- A call that succeeds has passed the guard and written the file. -/
theorem execute_eq_ok {text : String} (h : (execute input policy).on w = (.ok text, after)) :
    ∃ args checked, Args.reader Source.value (Doc.ofJson input) = .ok args ∧
      Guard.checkWrite w.files w.cwd policy args.path = .ok checked ∧
      written w.files w.cwd checked.text args = (.ok text, after.files) ∧
      after = { w with files := after.files } := by
  rw [execute_on] at h
  split at h
  · cases h
  · rename_i args hargs
    split at h
    · cases h
    · rename_i checked hcheck
      obtain ⟨htext, rfl⟩ := Prod.mk.inj h
      exact ⟨args, checked, hargs, hcheck, Prod.ext htext rfl, rfl⟩

/-- One that fails has done nothing, unless it failed to write the file. -/
theorem execute_eq_error {e : ToolError} (h : (execute input policy).on w = (.error e, after)) :
    after = w ∨ ∃ args checked, Args.reader Source.value (Doc.ofJson input) = .ok args ∧
      Guard.checkWrite w.files w.cwd policy args.path = .ok checked ∧
      written w.files w.cwd checked.text args = (.error e, after.files) ∧
      after = { w with files := after.files } := by
  rw [execute_on] at h
  split at h
  · exact Or.inl (Prod.mk.inj h).2.symm
  · rename_i args hargs
    split at h
    · exact Or.inl (Prod.mk.inj h).2.symm
    · rename_i checked hcheck
      obtain ⟨he, rfl⟩ := Prod.mk.inj h
      exact Or.inr ⟨args, checked, hargs, hcheck, Prod.ext he rfl, rfl⟩

end

/-! ## What has changed -/

section

variable {t t' : FileTree} {cwd q : AbsPath} {args : Args}

/-- No directory is made where none is asked for. -/
theorem parentMade_snd (t : FileTree) (cwd : AbsPath) (path : String) :
    (parentMade t cwd path false).2 = t := by
  rw [parentMade]
  cases Path.parent? path with
  | none => rfl
  | some parent =>
    dsimp only
    split <;> rfl

/-- Those that are made for a place are above it. -/
theorem parentMade_grown (hd : q.Direct) (hp : t.Plain q) (createDirs : Bool) :
    t.Grown (parentMade t cwd q.text createDirs).2 q.dropLast := by
  rcases List.eq_nil_or_concat' q with rfl | ⟨init, last, rfl⟩
  · rw [parentMade, AbsPath.parent?_root]
    exact .refl t _
  · have hinit : init <+: init ++ [last] := List.prefix_append init [last]
    have hgrown : t.Grown (FileTree.createFirst cwd (Path.ancestors (AbsPath.text init)) t).1 init :=
      FileTree.createFirst_grown (hd.of_prefix hinit) (hp.of_prefix hinit)
    rw [parentMade, AbsPath.parent?_text hd.named, List.dropLast_concat]
    dsimp only
    split
    · exact .refl t _
    · split
      · exact .refl t _
      · rw [FileTree.createDirectories]
        rcases hmade : FileTree.createFirst cwd (Path.ancestors (AbsPath.text init)) t with
          ⟨made, - | cause⟩
        all_goals
          rw [hmade] at hgrown
          exact hgrown

/-- Writing that failed has made directories at most, and only if that was
asked for. -/
theorem written_error (hd : q.Direct) (hp : t.Plain q) {e : ToolError}
    (h : written t cwd q.text args = (.error e, t')) :
    t.Grown t' q.dropLast ∧ (args.createDirs = false → t' = t) := by
  have hgrown : t.Grown (parentMade t cwd q.text args.createDirs).2 q.dropLast :=
    parentMade_grown hd hp args.createDirs
  have hmade (hnot : args.createDirs = false) : (parentMade t cwd q.text args.createDirs).2 = t :=
    hnot ▸ parentMade_snd t cwd q.text
  rw [written] at h
  rcases hparent : parentMade t cwd q.text args.createDirs with ⟨e' | ⟨⟩, made⟩
  all_goals
    rw [hparent] at h hgrown hmade
    dsimp only at h
  · cases h
    exact ⟨hgrown, hmade⟩
  · split at h
    · cases h
      exact ⟨hgrown, hmade⟩
    · cases h

/-- What a place holds once a file was written: the content, after what was
there if it is to be appended, unless the null device took it. -/
def Holds (t t' : FileTree) (q : AbsPath) (args : Args) : Prop :=
  if t.entry? q = some .device then t'.entry? q = some .device
  else ∃ executable, t'.entry? q = some (.file
    (if args.append then t.content q ++ Utf8.encode args.content else Utf8.encode args.content)
    executable)

/-- **What writing a file has done**: the place holds the content and is in
directories, all of which were there if none was to be made; and nothing
else is different. -/
structure Stored (t t' : FileTree) (q : AbsPath) (args : Args) : Prop where
  holds : Holds t t' q args
  directory : ∀ a, a <+: q → a ≠ q → t'.entry? a = some .directory
  asked : args.createDirs = false → ∀ a, a <+: q → a ≠ q → t.entry? a = some .directory
  frame : ∀ p, t'.entry? p ≠ t.entry? p →
    (p = q ∧ t.entry? q ≠ some .device) ∨
      (p <+: q ∧ p ≠ q ∧ t.entry? p = none ∧ t'.entry? p = some .directory)

/-- What is on the way to the directory of a place is above that place. -/
theorem prefix_of_dropLast {p : AbsPath} (hne : q ≠ []) (h : p <+: q.dropLast) :
    p <+: q ∧ p ≠ q := by
  refine ⟨h.trans (List.dropLast_prefix q), ?_⟩
  -- the whole is longer than what its last name was taken from
  rintro rfl
  have hlength := h.length_le
  have hpos := List.length_pos_of_ne_nil hne
  rw [List.length_dropLast] at hlength
  omega

/-- What was made for a place is above it and was missing, -/
theorem made_cases (hne : q ≠ []) (hgrown : t.Grown t' q.dropLast) {p : AbsPath}
    (hp : t'.entry? p ≠ t.entry? p) :
    p <+: q ∧ p ≠ q ∧ t.entry? p = none ∧ t'.entry? p = some .directory := by
  obtain ⟨hpre, hwas⟩ := (hgrown p).resolve_left hp
  obtain ⟨hpre, hother⟩ := prefix_of_dropLast hne hpre
  exact ⟨hpre, hother, hwas⟩

/-- so the place itself is as it was. -/
theorem entry?_of_made (hne : q ≠ []) (hgrown : t.Grown t' q.dropLast) :
    t'.entry? q = t.entry? q := by
  by_contra hchanged
  exact (made_cases hne hgrown hchanged).2.1 rfl

/-- **Writing that succeeded has stored the content.** -/
theorem written_ok (hd : q.Direct) (hp : t.Plain q) {text : String}
    (h : written t cwd q.text args = (.ok text, t')) : Stored t t' q args := by
  have hgrown : t.Grown (parentMade t cwd q.text args.createDirs).2 q.dropLast :=
    parentMade_grown hd hp args.createDirs
  have hmade (hnot : args.createDirs = false) : (parentMade t cwd q.text args.createDirs).2 = t :=
    hnot ▸ parentMade_snd t cwd q.text
  rw [written] at h
  rcases hparent : parentMade t cwd q.text args.createDirs with ⟨e' | ⟨⟩, made⟩
  all_goals
    rw [hparent] at h hgrown hmade
    dsimp only at h hmade
  · cases h
  · split at h
    · cases h
    · rename_i after hwrite
      cases h
      obtain ⟨hne, habove, hput⟩ := FileTree.write_eq_ok hd (hgrown.plain hp) hwrite
      have hsame := entry?_of_made hne hgrown
      have hcontent : made.content q = t.content q := by
        rw [FileTree.content, hsame, FileTree.content]
      have hasked (hnot : args.createDirs = false) :
          ∀ a, a <+: q → a ≠ q → t.entry? a = some .directory := hmade hnot ▸ habove
      rcases hput with ⟨hdevice, rfl⟩ | ⟨hfile, executable, rfl⟩
      · rw [hsame] at hdevice
        exact {
          holds := by rw [Holds, if_pos hdevice, hsame, hdevice]
          directory := habove
          asked := hasked
          frame := fun p hp => Or.inr (made_cases hne hgrown hp) }
      · rw [hsame] at hfile
        -- where the file was not put, everything is as it was once the directories were made
        have hother {p : AbsPath} (hp : p ≠ q) (e : Entry) :
            FileTree.entry? (made.put q e) p = made.entry? p := by
          rw [FileTree.entry?_put hne, if_neg hp.symm]
        rw [hcontent]
        exact {
          holds := by
            rw [Holds, if_neg hfile]
            exact ⟨executable, by rw [FileTree.entry?_put hne, if_pos rfl]⟩
          directory := fun a ha hq => by rw [hother hq, habove a ha hq]
          asked := hasked
          frame := fun p hp => by
            by_cases hq : p = q
            · exact Or.inl ⟨hq, hfile⟩
            · rw [hother hq] at hp ⊢
              exact Or.inr (made_cases hne hgrown hp) }

end

/-- Where paths are restricted, the guard's answer is a place without a link
on the way, and outside every read-only root. -/
theorem plain_of_checkWrite {w : World} (hcwd : w.cwd.Named) (hrooted : w.files.Rooted)
    {policy : Policy} (hne : policy.allowedPaths ≠ [] ∨ policy.readOnlyPaths ≠ []) {path : String}
    {checked : CheckedPath} (h : Guard.checkWrite w.files w.cwd policy path = .ok checked) :
    ∃ q, checked = .resolved q ∧ q.Direct ∧ w.files.Plain q ∧
      ∀ root ∈ policy.readOnlyPaths, Guard.LiesOutside w.files w.cwd q root := by
  obtain ⟨q, rfl, hsettled, -, houtside⟩ := Guard.settled_of_checkWrite hcwd hne h
  exact ⟨q, rfl, hsettled.direct, hsettled.unambiguous.entry hrooted, houtside⟩

/-- An input to write below a directory that is not there yet, by way of two
links. -/
def deepInput : Json := .ofFields
  [("path", .str "back/./link/../new/deep.txt"), ("content", .str "x"),
    ("create_dirs", .bool true), ("append", .bool true)]

/-- A tree with the null device. -/
def deviceTree : FileTree := ⟨[(["dev"], .directory), (["dev", "null"], .device)]⟩

/-- An input to write to it. -/
def deviceInput : Json := .ofFields [("path", .str "/dev/null"), ("content", .str "x")]

end WriteFileTool

end Turnstile
