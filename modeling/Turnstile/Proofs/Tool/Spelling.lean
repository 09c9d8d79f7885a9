import Turnstile.Proofs.Files.Spelling
import Turnstile.Proofs.Tool.Writing
/-!
# Writing by a relative path

Under a policy that restricts paths the guard reads the same names off a
relative path and its spelling, so writing by the one is writing by the
other. Under a policy that does not, the path is used as it was written.
Then the two come to the same as well, step by step, with one exception:
above a path of one piece is the empty path, and that is taken for a
directory that is missing, although it is the current one
(`written_of_bare`).
-/

namespace Turnstile

namespace Guard

variable {t : FileTree} {cwd : AbsPath} {roots : List String}

/-- What a check lets through depends on where the path leads alone. -/
theorem checkAllowed_congr (hne : roots ≠ []) {path path' : CheckedPath}
    (h : (resolve t cwd path.text).toOption = (resolve t cwd path'.text).toOption) :
    (checkAllowed t cwd roots path).toOption = (checkAllowed t cwd roots path').toOption := by
  rw [checkAllowed_eq hne, checkAllowed_eq hne]
  cases hp : resolve t cwd path.text <;> cases hp' : resolve t cwd path'.text <;>
    rw [hp, hp'] at h <;> cases h <;> rfl

theorem checkWritable_congr (hne : roots ≠ []) {path path' : CheckedPath}
    (h : (resolve t cwd path.text).toOption = (resolve t cwd path'.text).toOption) :
    (checkWritable t cwd roots path).toOption = (checkWritable t cwd roots path').toOption := by
  rw [checkWritable_eq hne, checkWritable_eq hne]
  cases hp : resolve t cwd path.text <;> cases hp' : resolve t cwd path'.text <;>
    rw [hp, hp'] at h <;> cases h <;> rfl

/-- Where nothing is restricted, a path is let through as it was written. -/
theorem checkWrite_of_unrestricted {policy : Policy} (hallowed : policy.allowedPaths = [])
    (hro : policy.readOnlyPaths = []) (path : String) :
    checkWrite t cwd policy path = .ok (.unrestricted path) := by
  rw [checkWrite, checkRead, hallowed, hro, checkAllowed_nil]
  rfl

/-- **Where something is restricted, the guard answers both spellings
alike.** -/
theorem checkWrite_join (hcwd : cwd.Named) {policy : Policy}
    (hne : policy.allowedPaths ≠ [] ∨ policy.readOnlyPaths ≠ []) {path : String}
    (hrel : Path.isAbsolute path = false) :
    (checkWrite t cwd policy (Path.join cwd.text path)).toOption =
      (checkWrite t cwd policy path).toOption := by
  have hresolve := resolve_join_text (t := t) hcwd hrel
  rw [checkWrite, checkWrite]
  by_cases hallowed : policy.allowedPaths = []
  · have hro : policy.readOnlyPaths ≠ [] := hne.resolve_left fun h => h hallowed
    rw [checkRead, checkRead, hallowed, checkAllowed_nil, checkAllowed_nil]
    exact checkWritable_congr hro hresolve
  · have hread : (checkRead t cwd policy (Path.join cwd.text path)).toOption =
        (checkRead t cwd policy path).toOption := checkAllowed_congr hallowed hresolve
    cases hleft : checkRead t cwd policy (Path.join cwd.text path) <;>
      cases hright : checkRead t cwd policy path <;>
      rw [hleft, hright] at hread <;> cases hread <;> rfl

end Guard

namespace WriteFileTool

/-- Both succeed or both fail, and with the same left behind. -/
def Alike {α σ : Type} (run run' : Except ToolError α × σ) : Prop :=
  run.1.toBool = run'.1.toBool ∧ run.2 = run'.2

section

variable {t : FileTree} {d : AbsPath} {path : String}

/-- Making sure of a directory leaves the current one. -/
theorem clear_parentMade (hd : Guard.Clear t d) (path : String) (createDirs : Bool) :
    Guard.Clear (parentMade t d path createDirs).2 d := by
  rw [parentMade]
  cases Path.parent? path with
  | none => exact hd
  | some parent =>
    dsimp only
    split
    · exact hd
    · split
      · exact hd
      · have hmade : Guard.Clear (FileTree.createFirst d (Path.ancestors parent) t).1 d :=
          FileTree.clear_createFirst hd (Path.ancestors parent)
        rw [FileTree.createDirectories]
        rcases hfirst : FileTree.createFirst d (Path.ancestors parent) t with ⟨made, - | cause⟩
        all_goals
          rw [hfirst] at hmade
          exact hmade

/-- What is above the current directory exists. -/
theorem pathExists_text (hd : Guard.Clear t d) {p : AbsPath} (hp : p <+: d) :
    t.pathExists d p.text = true := by
  rw [FileTree.pathExists, FileTree.stat, FileTree.lookUp,
    FileTree.locate_text_of_clear (hd.of_prefix hp)]
  rfl

/-- Where what is above a path exists, nothing is made. -/
theorem parentMade_of_exists (createDirs : Bool)
    (h : ∀ parent, Path.parent? path = some parent → t.pathExists d parent = true) :
    parentMade t d path createDirs = (.ok (), t) := by
  rw [parentMade]
  cases hparent : Path.parent? path with
  | none => rfl
  | some parent => exact if_pos (h parent hparent)

/-- The pieces above a path and those above its spelling are made alike. -/
theorem parentMade_join_of_trimmed {pieces : List String} (hd : Guard.Clear t d)
    (hrelative : Path.Relative pieces) (htrimmed : Path.Trimmed pieces)
    (hfits : (Path.join d.text (Text.join "/" pieces.reverse)).utf8ByteSize ≤
      FileTree.longestPath)
    (hparent : Path.parent? path = some (Text.join "/" pieces.reverse))
    (hparent' : Path.parent? (Path.join d.text path) =
      some (Path.join d.text (Text.join "/" pieces.reverse))) (createDirs : Bool) :
    Alike (parentMade t d path createDirs) (parentMade t d (Path.join d.text path) createDirs) := by
  have hrel := hrelative.isAbsolute_join
  have hne := hrelative.join_ne_empty htrimmed.ne_nil
  rw [parentMade, parentMade, hparent, hparent']
  dsimp only
  rw [FileTree.pathExists_join hd hrel hne hfits, FileTree.createDirectories,
    FileTree.createDirectories, Path.ancestors_of_trimmed hrelative htrimmed,
    Path.ancestors_join_of_trimmed hrelative htrimmed hd.direct.named,
    FileTree.createFirst_join hd hrelative htrimmed.ne_nil hfits]
  split
  · exact ⟨rfl, rfl⟩
  · split
    · exact ⟨rfl, rfl⟩
    · rcases FileTree.createFirst d (Path.ancestorsOf pieces) t with ⟨made, - | cause⟩
      · exact ⟨rfl, rfl⟩
      · exact ⟨rfl, rfl⟩

/-- **Making sure of the directory** of a path and of its spelling comes to
the same, unless the path has nothing above it to name and no directory is
to be made. -/
theorem parentMade_join (hd : Guard.Clear t d) (hrel : Path.isAbsolute path = false)
    (hfits : (Path.join d.text path).utf8ByteSize ≤ FileTree.longestPath) (createDirs : Bool)
    (hbare : Path.parent? path = some "" → createDirs = true) :
    Alike (parentMade t d path createDirs) (parentMade t d (Path.join d.text path) createDirs) := by
  have hnamed := hd.direct.named
  by_cases hne : path = ""
  · subst hne
    have hnone : Path.parent? "" = none := rfl
    rw [parentMade_of_exists createDirs fun above h => ?_,
      parentMade_of_exists createDirs fun above h => ?_]
    · exact ⟨rfl, rfl⟩
    · obtain ⟨p, hp, rfl⟩ := Path.parent?_join_of_stripped hnamed hrel (by decide) h
      exact pathExists_text hd hp
    · rw [hnone] at h
      cases h
  rcases Path.parent?_cases hnamed hrel hne with ⟨hparent, habove⟩ | ⟨hparent, hparent'⟩ |
    ⟨pieces, hrelative, htrimmed, hpre, hparent, hparent'⟩
  · -- the directory is there, and nothing is made for the empty path
    have hmade : parentMade t d path createDirs = (.ok (), t) := by
      rw [parentMade, hparent, hbare hparent]
      rfl
    rw [hmade, parentMade_of_exists createDirs fun above h => ?_]
    · exact ⟨rfl, rfl⟩
    · obtain ⟨p, hp, rfl⟩ := habove above h
      exact pathExists_text hd hp
  · rw [parentMade_of_exists createDirs fun above h => ?_,
      parentMade_of_exists createDirs fun above h => ?_]
    · exact ⟨rfl, rfl⟩
    · rw [hparent', Option.some.injEq] at h
      exact h ▸ pathExists_text hd List.prefix_rfl
    · rw [hparent, Option.some.injEq] at h
      rw [← h, FileTree.pathExists, FileTree.stat, FileTree.lookUp, FileTree.locate_dot]
      rfl
  · refine parentMade_join_of_trimmed hd hrelative htrimmed ?_ hparent hparent' createDirs
    have hpath := Text.join_splitOn path '/'
    obtain ⟨more, hmore⟩ := hpre
    rw [← hmore] at hpath
    rw [← hpath] at hfits hrel
    exact (Path.utf8ByteSize_join_le hnamed hrelative.isAbsolute_join hrel).trans hfits

/-- **Writing by a path and by its spelling** comes to the same, with that
exception. -/
theorem written_join (hd : Guard.Clear t d) (hrel : Path.isAbsolute path = false)
    (hfits : (Path.join d.text path).utf8ByteSize ≤ FileTree.longestPath) (args : Args)
    (hbare : Path.parent? path = some "" → args.createDirs = true) :
    Alike (written t d path args) (written t d (Path.join d.text path) args) := by
  have hclear := clear_parentMade hd path args.createDirs
  obtain ⟨hok, hsame⟩ := parentMade_join hd hrel hfits args.createDirs hbare
  rw [written, written]
  rcases hmade : parentMade t d path args.createDirs with ⟨e | ⟨⟩, made⟩ <;>
    rcases hmade' : parentMade t d (Path.join d.text path) args.createDirs with ⟨e' | ⟨⟩, made'⟩ <;>
    rw [hmade, hmade'] at hok hsame <;> cases hsame <;> try cases hok
  · exact ⟨rfl, rfl⟩
  · rw [hmade] at hclear
    have hwrite := FileTree.write_join d hclear hrel hfits args.append
      (Utf8.encode args.content)
    dsimp only
    cases hleft : made.write d path args.append (Utf8.encode args.content) <;>
      cases hright : made.write d (Path.join d.text path) args.append (Utf8.encode args.content) <;>
      rw [hleft, hright] at hwrite <;> cases hwrite <;> exact ⟨rfl, rfl⟩

/-- **The exception**: with nothing above it to name and no directory to be
made, a path cannot be written to. -/
theorem written_of_bare (args : Args) (hparent : Path.parent? path = some "")
    (hnot : args.createDirs = false) :
    written t d path args = (.error (.execution "Parent directory does not exist: "), t) := by
  rw [written, parentMade, hparent, hnot]
  rfl

end

/-- A failed operation is told apart from a missing directory. -/
theorem failed_ne_missingParent (action path why : String) (cause : FileFailure) :
    FileTool.failed action path cause ≠
      .execution ("Parent directory does not exist: " ++ why) := by
  intro h
  have hchars := congrArg String.toList (ToolError.execution.inj h)
  simp [String.toList_append] at hchars

theorem parentMade_missingParent {t : FileTree} {cwd : AbsPath} {path why : String}
    {createDirs : Bool} (h : (parentMade t cwd path createDirs).1 =
      .error (.execution ("Parent directory does not exist: " ++ why))) :
    Path.parent? path = some why ∧ t.pathExists cwd why = false := by
  rw [parentMade] at h
  cases hparent : Path.parent? path with
  | none =>
    rw [hparent] at h
    cases h
  | some parent =>
    rw [hparent] at h
    dsimp only at h
    split at h
    · cases h
    · rename_i hmissing
      split at h
      · have hwhy : parent = why := by
          have hchars := congrArg String.toList (ToolError.execution.inj (Except.error.inj h))
          rw [String.toList_append, String.toList_append] at hchars
          exact String.toList_inj.mp (List.append_cancel_left hchars)
        subst hwhy
        exact ⟨rfl, by simpa using hmissing⟩
      · split at h
        · exact absurd (Except.error.inj h) (failed_ne_missingParent _ _ _ _)
        · cases h

/-- A missing directory is reported only where what is above the path that
is opened leads nowhere. -/
theorem written_missingParent {t : FileTree} {cwd : AbsPath} {path why : String} {args : Args}
    (h : (written t cwd path args).1 =
      .error (.execution ("Parent directory does not exist: " ++ why))) :
    Path.parent? path = some why ∧ t.pathExists cwd why = false := by
  rw [written] at h
  split at h
  · rename_i e made hmade
    cases h
    exact parentMade_missingParent (congrArg Prod.fst hmade)
  · split at h
    · exact absurd (Except.error.inj h) (failed_ne_missingParent _ _ _ _)
    · cases h

/-- **Writing by a relative path and by its spelling.** Where something is
restricted, both succeed or both fail, and leave the same behind. Where
nothing is, so they do, unless the spelling is too long for the system, or
the path has nothing above it to name and no directory is to be made; and
then it is not written. A missing directory is reported only for a path
that leads nowhere. -/
theorem execute_join (w : World) (hcwd : w.files.Standing w.cwd)
    (hnul : '\x00' ∉ w.cwd.text.toList) (policy : Policy) (args : Args)
    (hrel : Path.isAbsolute args.path = false) (input spelled : Json)
    (hinput : Args.reader Source.value (Doc.ofJson input) = .ok args)
    (hspelled : Args.reader Source.value (Doc.ofJson spelled) =
      .ok { args with path := Path.join w.cwd.text args.path }) :
    (policy.allowedPaths ≠ [] ∨ policy.readOnlyPaths ≠ [] →
      Alike ((execute input policy).on w) ((execute spelled policy).on w)) ∧
    (policy.allowedPaths = [] → policy.readOnlyPaths = [] →
      ((Path.join w.cwd.text args.path).utf8ByteSize ≤ FileTree.longestPath →
        (Path.parent? args.path = some "" → args.createDirs = true) →
        Alike ((execute input policy).on w) ((execute spelled policy).on w)) ∧
      (Path.parent? args.path = some "" → args.createDirs = false →
        (execute input policy).on w =
          (.error (.execution "Parent directory does not exist: "), w))) ∧
    ∀ asked why, ((execute asked policy).on w).1 =
        .error (.execution ("Parent directory does not exist: " ++ why)) →
      ∃ args checked, Args.reader Source.value (Doc.ofJson asked) = .ok args ∧
        Guard.checkWrite w.files w.cwd policy args.path = .ok checked ∧
        Path.parent? checked.text = some why ∧ w.files.pathExists w.cwd why = false := by
  refine ⟨fun hne => ?_, fun hallowed hro => ⟨fun hfits hbare => ?_, fun hparent hnot => ?_⟩,
    fun asked why h => ?_⟩
  · have hcheck := Guard.checkWrite_join (t := w.files) hcwd.direct.named hne hrel
    rw [execute_on, execute_on, hinput, hspelled]
    dsimp only
    cases hleft : Guard.checkWrite w.files w.cwd policy args.path <;>
      cases hright : Guard.checkWrite w.files w.cwd policy (Path.join w.cwd.text args.path) <;>
      rw [hleft, hright] at hcheck <;> cases hcheck <;> exact ⟨rfl, rfl⟩
  · -- the directory is a part of the spelling, so its text is not too long either
    have hclear : Guard.Clear w.files w.cwd :=
      ⟨hcwd, hnul, (Path.utf8ByteSize_text_le hcwd.direct.named hrel).trans hfits⟩
    obtain ⟨hok, hsame⟩ := written_join hclear hrel hfits args hbare
    rw [execute_on, execute_on, hinput, hspelled]
    dsimp only
    rw [Guard.checkWrite_of_unrestricted hallowed hro, Guard.checkWrite_of_unrestricted hallowed hro]
    exact ⟨hok, congrArg (fun files => { w with files }) hsame⟩
  · rw [execute_on, hinput]
    dsimp only
    rw [Guard.checkWrite_of_unrestricted hallowed hro]
    dsimp only [CheckedPath.text]
    rw [written_of_bare args hparent hnot]
  · rw [execute_on] at h
    split at h
    · cases h
    · rename_i args' hargs
      split at h
      · cases h
      · rename_i checked hcheck
        exact ⟨args', checked, hargs, hcheck, written_missingParent h⟩

/-- An input to write a file, with directories made for it. -/
def fileInput (path : String) (createDirs : Bool) : Json := .ofFields
  [("path", .str path), ("content", .str "x"), ("create_dirs", .bool createDirs)]

/-- What is read of it. -/
def fileArgs (path : String) (createDirs : Bool) : Args := ⟨path, "x", createDirs, false⟩

/-- A process can be in the box. -/
theorem standing_box : Guard.knottedTree.Standing ["box"] := by
  refine (Guard.knottedTree.standing_root).append_singleton ?_ ?_ ?_
  · simp [Path.IsName]
  · decide
  · decide +kernel

/-- By a path with dots and by its spelling, two directories are made and a
file is written. -/
theorem execute_join_dotted :
    let run (path : String) := (execute (fileInput path true) .default).on
      (.fresh Guard.knottedTree ["box"])
    Alike (run "./in/./new/deep.txt") (run "/box/./in/./new/deep.txt") ∧
      (run "./in/./new/deep.txt").1 = .ok "Wrote 1 bytes to ./in/./new/deep.txt" ∧
      FileTree.entry? (run "./in/./new/deep.txt").2.files ["box", "in", "new", "deep.txt"] =
        some (.file (Utf8.encode "x") false) := by
  intro run
  have hinput : Args.reader Source.value (Doc.ofJson (fileInput "./in/./new/deep.txt" true)) =
      .ok (fileArgs "./in/./new/deep.txt" true) := by
    decide +kernel
  have hspelled : Args.reader Source.value (Doc.ofJson (fileInput "/box/./in/./new/deep.txt" true)) =
      .ok { fileArgs "./in/./new/deep.txt" true with
        path := Path.join (AbsPath.text ["box"]) "./in/./new/deep.txt" } := by
    decide +kernel
  have halike := ((execute_join (.fresh Guard.knottedTree ["box"]) standing_box (by decide) .default
    (fileArgs "./in/./new/deep.txt" true) (by decide) _ _ hinput hspelled).2.1 rfl rfl).1
    (by decide) fun _ => rfl
  exact ⟨halike, by decide +kernel, by decide +kernel⟩

/-- **A path of one piece cannot be written to** where paths are not
restricted, although its spelling can: the current directory is taken to be
missing. -/
theorem execute_bare_ne :
    let run (path : String) := (execute (fileInput path false) .default).on
      (.fresh Guard.knottedTree ["box"])
    (run "new.txt").1 = .error (.execution "Parent directory does not exist: ") ∧
      FileTree.entry? (run "new.txt").2.files ["box", "new.txt"] = none ∧
      (run (Path.join (AbsPath.text ["box"]) "new.txt")).1 =
        .ok "Wrote 1 bytes to /box/new.txt" ∧
      FileTree.entry? (run (Path.join (AbsPath.text ["box"]) "new.txt")).2.files
        ["box", "new.txt"] = some (.file (Utf8.encode "x") false) ∧
      Guard.knottedTree.isDirectory ["box"] "." = true := by
  decide +kernel

end WriteFileTool

end Turnstile
