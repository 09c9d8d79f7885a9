import Turnstile.Guard
import Mathlib.Data.List.Basic
/-!
# Names — the text of a place and back

A place is written as a slash before each of its names. Reading such a
text gives the place again (`Path.names_text`), as long as each name could
stand between two slashes: it is not empty and has no slash in it. A
single dot could stand there too, but no step is taken for it, so
`IsName` leaves it out; what the guard reads off any text are names in
this sense (`Guard.named_names`).
-/

namespace Turnstile

namespace Text

/-- Pieces between separators are the list library's pieces. -/
theorem splitListAt_eq_splitOnP {α : Type} (p : α → Bool) (xs : List α) :
    splitListAt p xs = xs.splitOnP p := by
  induction xs with
  | nil => rfl
  | cons x xs ih =>
    rw [List.splitOnP_cons_eq_if_modifyHead, splitListAt, ih]
    cases hs : xs.splitOnP p with
    | nil => exact absurd hs (List.splitOnP_ne_nil p xs)
    | cons piece pieces => rw [List.modifyHead_cons]

/-- A piece holds no separator. -/
theorem not_of_mem_splitListAt {α : Type} {p : α → Bool} {xs : List α} :
    ∀ piece ∈ splitListAt p xs, ∀ x ∈ piece, p x = false := by
  induction xs with
  | nil =>
    intro piece hp x hx
    rw [splitListAt, List.mem_singleton] at hp
    rw [hp] at hx
    cases hx
  | cons y ys ih =>
    intro piece hp x hx
    rw [splitListAt] at hp
    cases hs : splitListAt p ys with
    | nil =>
      simp only [hs, List.mem_singleton] at hp
      rw [hp] at hx
      cases hx
    | cons first rest =>
      rw [hs] at ih hp
      by_cases hy : p y = true
      · simp only [if_pos hy] at hp
        rcases List.mem_cons.mp hp with rfl | hp
        · cases hx
        · exact ih piece hp x hx
      · simp only [if_neg hy] at hp
        rcases List.mem_cons.mp hp with rfl | hp
        · rcases List.mem_cons.mp hx with rfl | hx
          · simpa using hy
          · exact ih first (List.mem_cons_self ..) x hx
        · exact ih piece (List.mem_cons_of_mem _ hp) x hx

/-- The pieces of a text, as lists of characters. -/
theorem splitOn_eq (s : String) (sep : Char) :
    splitOn s sep = (s.toList.splitOn sep).map String.ofList := by
  rw [splitOn, splitListAt_eq_splitOnP, List.splitOn_eq_splitOnP]

/-- A piece of a text does not hold the separator. -/
theorem not_mem_of_mem_splitOn {s piece : String} {sep : Char} (h : piece ∈ splitOn s sep) :
    sep ∉ piece.toList := by
  obtain ⟨cs, hcs, rfl⟩ := List.mem_map.mp h
  intro hsep
  have := not_of_mem_splitListAt cs hcs sep (by simpa using hsep)
  simp at this

/-- Joining, on lists of characters. -/
theorem toList_join (sep : String) (pieces : List String) :
    (join sep pieces).toList = sep.toList.intercalate (pieces.map String.toList) := by
  induction pieces with
  | nil => rfl
  | cons piece rest ih =>
    cases rest with
    | nil => simp [join]
    | cons next rest =>
      rw [join, String.toList_append, String.toList_append, ih, List.map_cons, List.map_cons]
      simp [List.intercalate]
      simp

/-- **Joining is undone by splitting**, if no piece holds the separator. -/
theorem splitOn_toList_join {sep : Char} {pieces : List String} (hne : pieces ≠ [])
    (h : ∀ piece ∈ pieces, sep ∉ piece.toList) :
    (join (String.singleton sep) pieces).toList.splitOn sep = pieces.map String.toList := by
  have hmap : ∀ piece ∈ pieces.map String.toList, sep ∉ piece := by
    intro piece hp
    obtain ⟨s, hs, rfl⟩ := List.mem_map.mp hp
    exact h s hs
  rw [toList_join, String.toList_singleton]
  exact List.splitOn_intercalate sep hmap (by simpa using hne)

/-- The same of texts. -/
theorem splitOn_join {sep : Char} {pieces : List String} (hne : pieces ≠ [])
    (h : ∀ piece ∈ pieces, sep ∉ piece.toList) :
    splitOn (join (String.singleton sep) pieces) sep = pieces := by
  rw [splitOn_eq, splitOn_toList_join hne h, List.map_map]
  simp [Function.comp_def]

/-- A joined text ends with its last piece. -/
theorem exists_join_append_singleton (sep : String) (pieces : List String) (last : String) :
    ∃ lead, join sep (pieces ++ [last]) = lead ++ last := by
  induction pieces with
  | nil => exact ⟨"", by simp [join]⟩
  | cons piece rest ih =>
    obtain ⟨lead, hlead⟩ := ih
    refine ⟨piece ++ sep ++ lead, ?_⟩
    have hcons : rest ++ [last] ≠ [] := by simp
    obtain ⟨next, more, hmore⟩ := List.exists_cons_of_ne_nil hcons
    rw [List.cons_append, hmore, join, ← hmore, hlead]
    · simp only [String.append_assoc]
    · intro h
      cases h

end Text

namespace Path

/-- A name that a step of a path is taken by. The two dots are one: they
lead up. -/
def IsName (name : String) : Prop := name ≠ "" ∧ name ≠ "." ∧ '/' ∉ name.toList

end Path

namespace AbsPath

/-- Every name is one that a step of a path is taken by, as it is in every
place a system gives, the current directory among them. -/
def Named (p : AbsPath) : Prop := ∀ name ∈ p, Path.IsName name

theorem named_append {p q : AbsPath} : Named (p ++ q) ↔ Named p ∧ Named q :=
  List.forall_mem_append

/-! ## Reading the text of a place -/

@[simp] theorem isAbsolute_text (p : AbsPath) : Path.isAbsolute p.text = true := by
  simp [Path.isAbsolute, Text.startsWith, text]

/-- **The text of a place is read back as the place.** -/
theorem names_text {p : AbsPath} (hp : Named p) : Path.names p.text = p := by
  have hlead : Text.splitOn p.text '/' =
      "" :: ((Text.join "/" p).toList.splitOn '/').map String.ofList := by
    rw [Text.splitOn_eq, text, String.toList_append]
    change List.map String.ofList (([] ++ '/' :: (Text.join "/" p).toList).splitOn '/') = _
    rw [List.splitOn_append_cons_self]
    rfl
  rw [Path.names, hlead]
  by_cases hne : p = []
  · subst hne
    rfl
  · have hjoin := Text.splitOn_toList_join hne fun name h => (hp name h).2.2
    change (Text.join "/" p).toList.splitOn '/' = _ at hjoin
    have hid : (String.ofList ∘ String.toList) = id := funext fun s => String.ofList_toList
    rw [hjoin, List.map_map, hid, List.map_id, List.filter_cons_of_neg (by simp)]
    exact List.filter_eq_self.mpr fun name h => by simpa using (hp name h).1

/-- The text of a place other than the root does not end in a slash. -/
theorem endsWith_text {p : AbsPath} (hp : Named p) (hne : p ≠ []) :
    Text.endsWith p.text "/" = false := by
  obtain ⟨init, last, rfl⟩ := (List.eq_nil_or_concat' p).resolve_left hne
  obtain ⟨lead, hlead⟩ := Text.exists_join_append_singleton "/" init last
  obtain ⟨hlast, -, hslash⟩ := hp last (by simp)
  have hchars : last.toList ≠ [] := by simpa using hlast
  obtain ⟨cs, c, hc⟩ := (List.eq_nil_or_concat' last.toList).resolve_left hchars
  have hne : c ≠ '/' := by
    rintro rfl
    exact hslash (by simp [hc])
  rw [Text.endsWith, text, hlead, String.toList_append, String.toList_append, hc]
  simp only [Bool.eq_false_iff, ne_eq, List.isSuffixOf_iff_suffix]
  rintro ⟨rest, hrest⟩
  rw [← List.append_assoc, ← List.append_assoc] at hrest
  have hlast : "/".toList = [c] := List.append_inj_right' hrest rfl
  exact hne (List.cons.inj hlast).1.symm

/-- The steps to a place other than the root are its names. -/
theorem steps_text {p : AbsPath} (hp : Named p) (hne : p ≠ []) : Path.steps p.text = p := by
  rw [Path.steps, names_text hp, endsWith_text hp hne]
  simp

end AbsPath

namespace Guard

/-- **What is read off a text are names.** -/
theorem named_names (path : String) : AbsPath.Named (names path) := by
  intro name hname
  obtain ⟨hmem, hdot⟩ := List.mem_filter.mp hname
  obtain ⟨hpiece, hempty⟩ := List.mem_filter.mp hmem
  exact ⟨by simpa using hempty, by simpa using hdot, Text.not_mem_of_mem_splitOn hpiece⟩

/-- So a path read at a place is a list of names. -/
theorem named_absolute {cwd : AbsPath} (hcwd : cwd.Named) (path : String) :
    AbsPath.Named (absolute cwd path) := by
  rw [absolute]
  split
  · exact named_names path
  · exact AbsPath.named_append.mpr ⟨hcwd, named_names path⟩

/-- And the text of a place is read as that place, wherever it is read. -/
theorem absolute_text {p : AbsPath} (hp : p.Named) (cwd : AbsPath) : absolute cwd p.text = p := by
  rw [absolute, if_pos p.isAbsolute_text, names, AbsPath.names_text hp]
  exact List.filter_eq_self.mpr fun name h => by simpa using (hp name h).2.1

end Guard

end Turnstile
