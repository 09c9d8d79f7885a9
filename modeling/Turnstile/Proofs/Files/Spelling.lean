import Turnstile.Proofs.Files.Pieces
import Turnstile.Proofs.Guard.Agreement
/-!
# Relative paths, spelled out

If a directory is one the system can walk down to, a path that is read
there and its spelling lead to the same (`locate_join`), as long as the
spelling is not too long; so making a directory or writing a file comes to
the same, too (`createDirectory_join`, `write_join`). What is made above a
missing directory may differ where the pieces of the path end; but a single
piece is never missing what is above it, so nothing is made there
(`createFirst_join`).
-/

namespace Turnstile

namespace Guard

variable {t : FileTree} {cwd : AbsPath} {path : String}

/-- The guard reads the same names off both spellings. -/
theorem absolute_join_text (hcwd : cwd.Named) (hrel : Path.isAbsolute path = false) :
    absolute cwd (Path.join cwd.text path) = absolute cwd path := by
  rw [absolute, if_pos (Path.isAbsolute_join_text hcwd hrel), names, Path.names_join_text hcwd hrel,
    List.filter_append, List.filter_eq_self.mpr fun name h => by simpa using (hcwd name h).2.1,
    absolute, hrel, if_neg Bool.false_ne_true, names]

/-- So it resolves them alike, -/
theorem resolve_join_text (hcwd : cwd.Named) (hrel : Path.isAbsolute path = false) :
    (resolve t cwd (Path.join cwd.text path)).toOption = (resolve t cwd path).toOption := by
  rw [resolve, resolve, absolute_join_text hcwd hrel]
  cases resolveNames t (linkDepth + 1) (absolute cwd path) <;> rfl

end Guard

namespace FileTree

variable {t : FileTree} {d cwd : AbsPath} {path : String}

/-- The text of a directory one can walk down to leads there. -/
theorem locate_text_of_clear (hd : Guard.Clear t d) (follow : Bool) :
    t.locate follow cwd d.text = .ok (.found d .directory) := by
  obtain ⟨expand, hloc⟩ := locate_text t follow hd.direct cwd
  have hstand : Standing t ([] ++ d) := hd.toStanding
  have hwalk : walkFrom t follow expand [] d = .ok (.found d .directory) := by
    rw [← List.append_nil d, hstand.walkFrom_append, List.nil_append, List.append_nil, walkFrom]
  rw [hloc, if_neg (by simpa using hd.nameable.noNul),
    if_neg (Nat.not_lt.mpr hd.nameable.fits), hwalk]

/-- So does a dot that is read there. -/
theorem locate_dot (t : FileTree) (d : AbsPath) (follow : Bool) :
    t.locate follow d "." = .ok (.found d .directory) := by
  obtain ⟨expand, hwalk⟩ := exists_walk_eq t follow linkLimit
  have hsteps : Path.steps "." = ["."] := by decide
  rw [locate, if_neg (by decide), if_neg (by decide), if_neg (by decide), if_neg (by decide), hwalk,
    hsteps, walkFrom, if_pos rfl, walkFrom]

theorem isDirectory_text_of_clear (hd : Guard.Clear t d) : t.isDirectory cwd d.text = true := by
  rw [isDirectory, stat, lookUp, locate_text_of_clear hd]

/-! ## What both spellings lead to -/

/-- Spelling a path out adds nothing that ends a text for the system. -/
theorem contains_nul_join (hd : d.Named) (hnul : '\x00' ∉ d.text.toList)
    (hrel : Path.isAbsolute path = false) :
    (Path.join d.text path).toList.contains '\x00' = path.toList.contains '\x00' := by
  have hlead : '\x00' ∉ (Path.leading d ++ "/").toList := by
    rw [String.toList_append, List.mem_append]
    rintro (hlead | hslash)
    · by_cases hroot : d = []
      · subst hroot
        exact absurd hlead (by decide)
      · rw [Path.leading, ← AbsPath.text_eq_join hroot] at hlead
        exact hnul hlead
    · exact absurd hslash (by decide)
  rw [Path.join_text hd hrel, String.toList_append, Bool.eq_iff_iff, List.contains_iff_mem,
    List.contains_iff_mem, List.mem_append]
  exact ⟨fun h => h.resolve_left hlead, Or.inr⟩

/-- **Both spellings lead to the same**, if the longer one is not too
long. -/
theorem locate_join (hd : Guard.Clear t d) (hrel : Path.isAbsolute path = false) (hne : path ≠ "")
    (hfits : (Path.join d.text path).utf8ByteSize ≤ longestPath) (follow : Bool) :
    t.locate follow cwd (Path.join d.text path) = t.locate follow d path := by
  have hnamed := hd.direct.named
  obtain ⟨expand, hwalk⟩ := exists_walk_eq t follow linkLimit
  have hstand : Standing t ([] ++ d) := hd.toStanding
  have hshort : path.utf8ByteSize ≤ longestPath := by
    rw [Path.join_text hnamed hrel, String.utf8ByteSize_append] at hfits
    omega
  have hempty : (Path.join d.text path).isEmpty = false := by
    rw [Path.join_text hnamed hrel]
    simp
  rw [locate, locate, contains_nul_join hnamed hd.nameable.noNul hrel, hempty, if_neg (Nat.not_lt.mpr hfits), if_neg (Nat.not_lt.mpr hshort),
    Path.isAbsolute_join_text hnamed hrel, hrel, Path.steps_join_text hnamed hrel hne, if_pos rfl,
    if_neg Bool.false_ne_true, hwalk, hstand.walkFrom_append, List.nil_append,
    show path.isEmpty = false by simpa using hne]
  rfl

theorem stat_join (hd : Guard.Clear t d) (hrel : Path.isAbsolute path = false) (hne : path ≠ "")
    (hfits : (Path.join d.text path).utf8ByteSize ≤ longestPath) :
    t.stat cwd (Path.join d.text path) = t.stat d path := by
  rw [stat, stat, lookUp, lookUp, locate_join hd hrel hne hfits]

theorem pathExists_join (hd : Guard.Clear t d) (hrel : Path.isAbsolute path = false)
    (hne : path ≠ "") (hfits : (Path.join d.text path).utf8ByteSize ≤ longestPath) :
    t.pathExists cwd (Path.join d.text path) = t.pathExists d path := by
  rw [pathExists, pathExists, stat_join hd hrel hne hfits]

theorem isDirectory_join (hd : Guard.Clear t d) (hrel : Path.isAbsolute path = false)
    (hne : path ≠ "") (hfits : (Path.join d.text path).utf8ByteSize ≤ longestPath) :
    t.isDirectory cwd (Path.join d.text path) = t.isDirectory d path := by
  rw [isDirectory, isDirectory, stat_join hd hrel hne hfits]

/-- So making a directory there comes to the same, -/
theorem createDirectory_join (hd : Guard.Clear t d) (hrel : Path.isAbsolute path = false)
    (hne : path ≠ "") (hslash : Text.endsWith path "/" = false)
    (hfits : (Path.join d.text path).utf8ByteSize ≤ longestPath) :
    t.createDirectory cwd (Path.join d.text path) = t.createDirectory d path := by
  have hslash' : Text.endsWith (Path.join d.text path) "/" = false := by
    rw [Path.endsWith_join_text hd.direct.named hrel hne, hslash]
  rw [createDirectory, createDirectory, withoutFinalSlashes_eq hslash',
    withoutFinalSlashes_eq hslash, locate_join hd hrel hne hfits]

/-- and so does writing a file. -/
theorem write_join (cwd : AbsPath) (hd : Guard.Clear t d) (hrel : Path.isAbsolute path = false)
    (hfits : (Path.join d.text path).utf8ByteSize ≤ longestPath) (append : Bool) (bytes : Bytes) :
    (t.write cwd (Path.join d.text path) append bytes).toOption =
      (t.write d path append bytes).toOption := by
  have hfails {cwd : AbsPath} {path : String} (h : Text.endsWith path "/" = true) :
      (t.write cwd path append bytes).toOption = none := by
    rw [write, if_pos h]
    split <;> rfl
  by_cases hne : path = ""
  · -- the empty path leads nowhere, and spelled out it ends in a slash
    subst hne
    have hslash : Text.endsWith (Path.join d.text "") "/" = true := by
      rw [Path.join_text hd.direct.named hrel, String.append_empty]
      exact Text.endsWith_append _ (by decide) '/'
    have hnowhere : t.write d "" append bytes = .error .notFound := rfl
    rw [hfails hslash, hnowhere]
    rfl
  · cases hslash : Text.endsWith path "/" with
    | true =>
      rw [hfails hslash, hfails (by rw [Path.endsWith_join_text hd.direct.named hrel hne, hslash])]
    | false =>
      rw [write, write, Path.endsWith_join_text hd.direct.named hrel hne, hslash,
        locate_join hd hrel hne hfits, if_neg Bool.false_ne_true, if_neg Bool.false_ne_true]

/-! ## Making directories one above the other -/

theorem missing_of_walkFrom {here dir : AbsPath} {names : List String} {name : String}
    {follow : Bool} {expand : AbsPath → List String → Except FileFailure Place}
    (hexpand : ∀ start steps, expand start steps = .ok (.missing dir name) →
      t.entry? (dir ++ [name]) = none)
    (h : walkFrom t follow expand here names = .ok (.missing dir name)) :
    t.entry? (dir ++ [name]) = none := by
  induction names generalizing here with
  | nil => cases h
  | cons first rest ih =>
    rw [walkFrom] at h
    by_cases hdot : first = "."
    · rw [if_pos hdot] at h
      exact ih h
    by_cases hup : first = ".."
    · rw [if_neg hdot, if_pos hup] at h
      exact ih h
    rw [if_neg hdot, if_neg hup] at h
    split at h
    · cases h
    · cases he : t.entry? (here ++ [first]) with
      | none =>
        simp only [he] at h
        split at h
        · cases h
          exact he
        · cases h
      | some there =>
        cases there with
        | directory =>
          simp only [he] at h
          exact ih h
        | link target =>
          simp only [he] at h
          split at h
          · cases h
          · exact hexpand _ _ h
        | _ =>
          simp only [he] at h
          split at h <;> cases h

/-- **Where a resolution ends with something missing, nothing is there.** -/
theorem missing_of_locate {dir : AbsPath} {name : String} {follow : Bool}
    (h : t.locate follow cwd path = .ok (.missing dir name)) : t.entry? (dir ++ [name]) = none := by
  have hwalk (links : Nat) (here : AbsPath) (steps : List String)
      (h : t.walk follow links here steps = .ok (.missing dir name)) :
      t.entry? (dir ++ [name]) = none := by
    induction links generalizing here steps with
    | zero => exact missing_of_walkFrom (fun _ _ h => by cases h) h
    | succ links ih => exact missing_of_walkFrom (fun start steps h => ih start steps h) h
  rw [locate] at h
  split at h
  · cases h
  · split at h
    · cases h
    · split at h
      · cases h
      · exact hwalk _ _ _ h

/-- A directory is made where nothing is, so what one can walk down to stays
that. -/
theorem clear_createDirectory {t' : FileTree} (hd : Guard.Clear t d)
    (h : t.createDirectory cwd path = .ok t') : Guard.Clear t' d := by
  rw [createDirectory] at h
  split at h
  · cases h
  · rename_i dir name hloc
    cases h
    refine ⟨hd.toStanding.put fun hpre => ?_, hd.nameable⟩
    have hnone := missing_of_locate hloc
    rw [hd.directory _ hpre] at hnone
    cases hnone
  · cases h

theorem clear_createFirst (hd : Guard.Clear t d) (paths : List String) :
    Guard.Clear (createFirst cwd paths t).1 d := by
  induction paths generalizing t with
  | nil => exact hd
  | cons path above ih =>
    rw [createFirst]
    split
    · rename_i made hmade
      exact clear_createDirectory hd hmade
    · have habove := ih hd
      split
      · rename_i made problem hfirst
        rw [hfirst] at habove
        exact habove
      · rename_i made hfirst
        rw [hfirst] at habove
        split
        · rename_i again hmade
          exact clear_createDirectory habove hmade
        · exact habove
    · exact hd

/-- Two paths in whose place a directory is made alike, with the same made
above them if that is needed. -/
theorem createFirst_cons_congr {path' : String} {above above' : List String}
    (hd : Guard.Clear t d)
    (hmake : ∀ t', Guard.Clear t' d → t'.createDirectory cwd path' = t'.createDirectory d path)
    (hthere : ∀ t', Guard.Clear t' d → t'.isDirectory cwd path' = t'.isDirectory d path)
    (habove : t.createDirectory d path = .error .notFound →
      createFirst cwd above' t = createFirst d above t) :
    createFirst cwd (path' :: above') t = createFirst d (path :: above) t := by
  -- the directory is still there once those above have been made
  have hclear : Guard.Clear (createFirst d above t).1 d := clear_createFirst hd above
  rw [createFirst, createFirst, hmake t hd, hthere t hd]
  cases hmade : t.createDirectory d path with
  | ok made => rfl
  | error e =>
    cases e with
    | notFound =>
      dsimp only
      rw [habove hmade]
      rcases hfirst : createFirst d above t with ⟨made, - | problem⟩
      · rw [hfirst] at hclear
        dsimp only
        rw [hmake made hclear, hthere made hclear]
      · rfl
    | _ => rfl

/-- A last name that is missing is reported with the directory it is missing
from. -/
theorem walkFrom_singleton_ne_notFound {here : AbsPath} {name : String}
    {expand : AbsPath → List String → Except FileFailure Place} :
    walkFrom t false expand here [name] ≠ .error .notFound := by
  rw [walkFrom]
  by_cases hdot : name = "."
  · rw [if_pos hdot]
    rintro ⟨⟩
  by_cases hup : name = ".."
  · rw [if_neg hdot, if_pos hup]
    rintro ⟨⟩
  rw [if_neg hdot, if_neg hup]
  split
  · rintro ⟨⟩
  · cases t.entry? (here ++ [name]) with
    | none => rintro ⟨⟩
    | some there => cases there <;> rintro ⟨⟩

/-- A single piece is made in the directory itself, so nothing above it is
missing. -/
theorem createDirectory_piece {piece : String} (hne : piece ≠ "") (hslash : '/' ∉ piece.toList) :
    t.createDirectory d piece ≠ .error .notFound := by
  have hsplit : Text.splitOn piece '/' = [piece] :=
    Text.splitOn_join (List.cons_ne_nil piece []) fun p hp => by rwa [List.mem_singleton.mp hp]
  have hends : Text.endsWith piece "/" = false := Path.endsWith_join_cons [] hne hslash
  have hpieces : Path.Relative [piece] :=
    ⟨fun p hp => by rwa [List.mem_singleton.mp hp], by simpa using hne⟩
  have hrel : Path.isAbsolute piece = false := hpieces.isAbsolute_join
  have hsteps : Path.steps piece = [piece] := by
    rw [Path.steps, Path.names, hsplit, hends, if_neg Bool.false_ne_true, List.append_nil,
      List.filter_cons_of_pos (by simpa using hne), List.filter_nil]
  obtain ⟨expand, hwalk⟩ := exists_walk_eq t false linkLimit
  have hlocate : t.locate false d piece ≠ .error .notFound := by
    rw [locate, hrel, hsteps, hwalk, show piece.isEmpty = false by simpa using hne]
    split
    · rintro ⟨⟩
    · rw [if_neg Bool.false_ne_true, if_neg Bool.false_ne_true]
      split
      · rintro ⟨⟩
      · exact walkFrom_singleton_ne_notFound
  rw [createDirectory, withoutFinalSlashes_eq hends]
  intro h
  split at h
  · rename_i e hfailed
    cases h
    exact hlocate hfailed
  · cases h
  · cases h

/-- Nothing is made for a directory that is there. -/
theorem createFirst_text (hd : Guard.Clear t d) :
    createFirst cwd (Path.ancestorsOf (d.reverse ++ [""])) t = (t, none) := by
  rcases List.eq_nil_or_concat' d with rfl | ⟨init, last, rfl⟩
  · rfl
  · have hnamed := hd.direct.named
    have habove : Path.ancestorsOf ((init ++ [last]).reverse ++ [""]) =
        Path.ancestors (AbsPath.text (init ++ [last])) := by
      rw [Path.ancestors, AbsPath.backwards_text hnamed (by simp)]
    rw [habove, AbsPath.ancestors_text hnamed, createFirst, createDirectory,
      withoutFinalSlashes_text hnamed, locate_text_of_clear hd]
    dsimp only
    rw [isDirectory_text_of_clear hd]
    rfl

/-- Nor for a dot. -/
theorem createFirst_dot (t : FileTree) (d : AbsPath) : createFirst d ["."] t = (t, none) := by
  rw [createFirst, createDirectory, withoutFinalSlashes_eq (by decide), locate_dot]
  dsimp only
  rw [isDirectory, stat, lookUp, locate_dot]
  rfl

/-- **Making a directory by a relative path and by its spelling** comes to
the same, if what is made above them is, too. -/
theorem createFirst_cons_join {piece : String} {rest above above' : List String}
    (hd : Guard.Clear t d) (hpieces : Path.Relative (piece :: rest)) (hpiece : piece ≠ "")
    (hfits : (Path.join d.text (Text.join "/" (piece :: rest).reverse)).utf8ByteSize ≤ longestPath)
    (habove : t.createDirectory d (Text.join "/" (piece :: rest).reverse) = .error .notFound →
      createFirst cwd above' t = createFirst d above t) :
    createFirst cwd (Text.join "/" (piece :: (rest ++ (d.reverse ++ [""]))).reverse :: above') t =
      createFirst d (Text.join "/" (piece :: rest).reverse :: above) t := by
  have hrel := hpieces.isAbsolute_join
  have hempty := hpieces.join_ne_empty (List.cons_ne_nil piece rest)
  have hslash := Path.endsWith_join_cons rest hpiece (hpieces.noSlash piece (List.mem_cons_self ..))
  have hspelled : Text.join "/" (piece :: (rest ++ (d.reverse ++ [""]))).reverse =
      Path.join d.text (Text.join "/" (piece :: rest).reverse) := by
    rw [Path.join_text_of_pieces hd.direct.named (by simp) hrel]
    simp
  rw [hspelled]
  exact createFirst_cons_congr hd
    (fun t' hd' => createDirectory_join hd' hrel hempty hslash hfits)
    (fun t' hd' => isDirectory_join hd' hrel hempty hfits) habove

/-- **So does making the directories above it**, for the pieces of a relative
path and for those of its spelling. -/
theorem createFirst_join {pieces : List String} (hd : Guard.Clear t d)
    (hpieces : Path.Relative pieces) (hne : pieces ≠ [])
    (hfits : (Path.join d.text (Text.join "/" pieces.reverse)).utf8ByteSize ≤ longestPath) :
    createFirst cwd (Path.ancestorsOf (pieces ++ (d.reverse ++ [""]))) t =
      createFirst d (Path.ancestorsOf pieces) t := by
  induction pieces with
  | nil => exact absurd rfl hne
  | cons piece rest ih =>
    have hbase : (rest ++ (d.reverse ++ [""])).isEmpty = false := by simp
    rw [List.cons_append, Path.ancestorsOf, Path.ancestorsOf, hbase]
    by_cases hrest : rest = []
    · subst hrest
      have hpiece : piece ≠ "" := fun h => hpieces.first (by rw [h]; rfl)
      have hslash := hpieces.noSlash piece (List.mem_cons_self ..)
      have hkept : Path.isFiller true piece = false := by simp [Path.isFiller, hpiece]
      rw [List.isEmpty_nil, hkept, if_neg Bool.false_ne_true]
      by_cases hdot : piece = "."
      · -- the directory itself, by a dot and by its text
        subst hdot
        rw [if_pos (by decide), List.nil_append, createFirst_text hd]
        exact (createFirst_dot t d).symm
      · -- above a single piece the two differ, but neither is asked for
        rw [if_neg (by simp [Path.isFiller, hpiece, hdot])]
        exact createFirst_cons_join hd hpieces hpiece hfits fun hnot =>
          absurd hnot (createDirectory_piece hpiece hslash)
    · have hshort : (Path.join d.text (Text.join "/" rest.reverse)).utf8ByteSize ≤ longestPath := by
        have hrel := hpieces.isAbsolute_join
        rw [List.reverse_cons] at hfits hrel
        exact (Path.utf8ByteSize_join_le hd.direct.named hpieces.tail.isAbsolute_join hrel).trans
          hfits
      have habove := ih hpieces.tail hrest hshort
      have hfirst : rest.isEmpty = false := by simpa using hrest
      rw [hfirst]
      by_cases hfiller : Path.isFiller false piece = true
      · rw [if_pos hfiller, if_pos hfiller, habove]
      · rw [if_neg hfiller, if_neg hfiller]
        refine createFirst_cons_join hd hpieces ?_ hfits fun _ => habove
        rintro rfl
        exact hfiller (by decide)

end FileTree

end Turnstile
