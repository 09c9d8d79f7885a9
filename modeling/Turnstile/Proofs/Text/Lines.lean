import Turnstile.Text.Lines
import Turnstile.Proofs.Files.Names
/-!
# Lines — how a text falls into them

A line ends at a line feed, with the carriage return before it if there is
one, and after the last line end there is no further line (`Text.Lined`).
Every text falls into lines in one way, which is what is computed
(`Text.lined_iff`).
-/

namespace Turnstile

namespace Text

/-- The text falls into these lines. -/
inductive Lined : List Char → List (List Char) → Prop
  | nothing : Lined [] []
  | last {line : List Char} (hne : line ≠ []) (hfeed : '\n' ∉ line) : Lined line [line]
  | feed {line rest : List Char} {ls : List (List Char)} (hfeed : '\n' ∉ line)
      (hreturn : line.getLast? ≠ some '\r') (hrest : Lined rest ls) :
      Lined (line ++ '\n' :: rest) (line :: ls)
  | returnFeed {line rest : List Char} {ls : List (List Char)} (hfeed : '\n' ∉ line)
      (hrest : Lined rest ls) : Lined (line ++ '\r' :: '\n' :: rest) (line :: ls)

theorem linesOf_cons (line : List Char) {pieces : List (List Char)} (h : pieces ≠ []) :
    linesOf (line :: pieces) = withoutReturn line :: linesOf pieces := by
  obtain ⟨piece, more, rfl⟩ := List.exists_cons_of_ne_nil h
  rfl

/-- What stands before a line feed is a line, but for a return at its end. -/
theorem linesOf_splitOn_append {line : List Char} (h : '\n' ∉ line) (rest : List Char) :
    linesOf ((line ++ '\n' :: rest).splitOn '\n') =
      withoutReturn line :: linesOf (rest.splitOn '\n') := by
  rw [List.splitOn_append_cons_self, List.splitOn_eq_singleton h, List.singleton_append,
    linesOf_cons line (List.splitOn_ne_nil '\n' rest)]

/-- A text falls into lines in no other way, -/
theorem Lined.eq_linesOf {cs : List Char} {ls : List (List Char)} (h : Lined cs ls) :
    ls = linesOf (cs.splitOn '\n') := by
  induction h with
  | nothing => rfl
  | @last line hne hfeed =>
    rw [List.splitOn_eq_singleton hfeed, linesOf, if_neg (by simpa using hne)]
  | @feed line rest ls hfeed hreturn hrest ih =>
    rw [linesOf_splitOn_append hfeed, withoutReturn, if_neg hreturn, ← ih]
  | @returnFeed line rest ls hfeed hrest ih =>
    have hline : '\n' ∉ line ++ ['\r'] := by simpa using hfeed
    have hsplit : line ++ '\r' :: '\n' :: rest = (line ++ ['\r']) ++ '\n' :: rest := by simp
    have hwithout : withoutReturn (line ++ ['\r']) = line := by
      rw [withoutReturn, if_pos List.getLast?_concat, List.dropLast_concat]
    rw [hsplit, linesOf_splitOn_append hline, hwithout, ← ih]

/-- and in this one. -/
theorem lined_intercalate {pieces : List (List Char)} (hne : pieces ≠ [])
    (h : ∀ piece ∈ pieces, '\n' ∉ piece) :
    Lined (['\n'].intercalate pieces) (linesOf pieces) := by
  induction pieces with
  | nil => exact absurd rfl hne
  | cons line pieces ih =>
    obtain ⟨hline, hpieces⟩ := List.forall_mem_cons.mp h
    rcases List.eq_nil_or_concat' pieces with rfl | hsome
    · -- the last piece ends no line
      have hjoin : ['\n'].intercalate [line] = line := by simp [List.intercalate]
      rw [hjoin, linesOf]
      split
      · rename_i hempty
        rw [List.isEmpty_iff.mp hempty]
        exact .nothing
      · rename_i hempty
        exact .last (by simpa using hempty) hline
    · -- the others end one, with or without a return
      have hnext : pieces ≠ [] := by
        obtain ⟨init, piece, rfl⟩ := hsome
        simp
      have hjoin : ['\n'].intercalate (line :: pieces) =
          line ++ '\n' :: ['\n'].intercalate pieces := by
        obtain ⟨piece, more, rfl⟩ := List.exists_cons_of_ne_nil hnext
        simp [List.intercalate]
      rw [hjoin, linesOf_cons line hnext, withoutReturn]
      split
      · rename_i hreturn
        obtain ⟨init, rfl⟩ := List.getLast?_eq_some_iff.mp hreturn
        rw [List.dropLast_concat, List.append_assoc]
        exact .returnFeed (fun hmem => hline (List.mem_append_left _ hmem)) (ih hnext hpieces)
      · rename_i hreturn
        exact .feed hline hreturn (ih hnext hpieces)

/-- **The lines of a text are those it falls into**, and it falls into no
others. -/
theorem lined_iff {s : String} {ls : List String} :
    Lined s.toList (ls.map String.toList) ↔ ls = lines s := by
  have hpieces : splitListAt (· == '\n') s.toList = s.toList.splitOn '\n' := by
    rw [splitListAt_eq_splitOnP, List.splitOn_eq_splitOnP]
  have hlines : (lines s).map String.toList = linesOf (s.toList.splitOn '\n') := by
    rw [lines, hpieces, List.map_map]
    simp [Function.comp_def]
  constructor
  · intro h
    apply List.map_injective_iff.mpr (fun a b => String.toList_inj.mp)
    rw [hlines]
    exact h.eq_linesOf
  · rintro rfl
    have hfall : Lined (['\n'].intercalate (s.toList.splitOn '\n'))
        (linesOf (s.toList.splitOn '\n')) := by
      refine lined_intercalate (List.splitOn_ne_nil _ _) fun piece hpiece hfeed => ?_
      rw [← hpieces] at hpiece
      simpa using not_of_mem_splitListAt piece hpiece '\n' hfeed
    rwa [List.intercalate_splitOn, ← hlines] at hfall

/-- No line holds a line feed. -/
theorem Lined.not_mem {cs : List Char} {ls : List (List Char)} (h : Lined cs ls) :
    ∀ line ∈ ls, '\n' ∉ line := by
  induction h with
  | nothing => exact fun _ hline => nomatch hline
  | last hne hfeed => exact List.forall_mem_singleton.mpr hfeed
  | feed hfeed hreturn hrest ih => exact List.forall_mem_cons.mpr ⟨hfeed, ih⟩
  | returnFeed hfeed hrest ih => exact List.forall_mem_cons.mpr ⟨hfeed, ih⟩

theorem not_mem_of_mem_lines {s line : String} (h : line ∈ lines s) : '\n' ∉ line.toList :=
  (lined_iff.mpr rfl).not_mem line.toList (List.mem_map_of_mem h)

end Text

end Turnstile
