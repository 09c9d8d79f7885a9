import Turnstile.Text.Case
import Mathlib.Data.List.Forall2
import Mathlib.Data.List.TakeWhile
/-!
# Lower case, by the rules of the standard

What a text is in lower case is said here without computing it: the rule
for one character between what precedes and what follows it (`Image`), and
the characters of a text one after another (`Lowered`). A text has exactly
one lower case, and it is the computed one (`lowered_iff`). Two texts that
differ in the case of ASCII letters only have the same one
(`lower_congr`).
-/

namespace Turnstile

namespace Text

/-! ## One character -/

/-- The code point lies on a run of the mapping. -/
def OnRun (n : Nat) (run : CaseRun) : Prop :=
  run ∈ lowerRuns ∧ run.first ≤ n ∧ n ≤ run.last ∧ run.step ∣ n - run.first

/-- The simple mapping moves the one code point to the other: an ASCII
capital, or a point on a run. -/
inductive Moves : Nat → Nat → Prop
  | ascii {n : Nat} : 0x41 ≤ n → n ≤ 0x5A → Moves n (n + 32)
  | up {n : Nat} {run : CaseRun} : OnRun n run → run.up = true → Moves n (n + run.shift)
  | down {n : Nat} {run : CaseRun} :
      OnRun (n + run.shift) run → run.up = false → Moves (n + run.shift) n

/-- The first of these that is not case-ignorable is cased. -/
def CasedNext (cs : List Char) : Prop :=
  ∃ ignorable c rest, cs = ignorable ++ c :: rest ∧ (∀ d ∈ ignorable, isCaseIgnorable d = true) ∧
    isCaseIgnorable c = false ∧ isCased c = true

/-- A sigma between these ends a word. -/
def EndsWord (before after : List Char) : Prop := CasedNext before.reverse ∧ ¬ CasedNext after

/-- What becomes of a character, between what precedes and what follows
it. -/
inductive Image (before after : List Char) : Char → List Char → Prop
  | finalSigma : EndsWord before after → Image before after 'Σ' ['ς']
  | sigma : ¬ EndsWord before after → Image before after 'Σ' ['σ']
  | dottedI : Image before after 'İ' ['i', '\u0307']
  | moved {c d : Char} : c ≠ 'Σ' → c ≠ 'İ' → Moves c.toNat d.toNat → Image before after c [d]
  | kept {c : Char} : c ≠ 'Σ' → c ≠ 'İ' → (∀ n, ¬ Moves c.toNat n) → Image before after c [c]

theorem reachesCased_iff (cs : List Char) : reachesCased cs = true ↔ CasedNext cs := by
  rw [reachesCased]
  constructor
  · intro h
    refine ⟨cs.takeWhile isCaseIgnorable, ?_⟩
    rcases hdrop : cs.dropWhile isCaseIgnorable with _ | ⟨c, rest⟩
    · rw [hdrop] at h
      cases h
    · rw [hdrop] at h
      refine ⟨c, rest, ?_, fun d hd => List.mem_takeWhile_imp hd, ?_, h⟩
      · rw [← hdrop, List.takeWhile_append_dropWhile]
      · have hhead := List.head?_dropWhile_not isCaseIgnorable cs
        rw [hdrop] at hhead
        simpa using hhead
  · rintro ⟨ignorable, c, rest, rfl, hignorable, hc, hcased⟩
    rw [List.dropWhile_append_of_pos hignorable, List.dropWhile_cons_of_neg (by simp [hc])]
    exact hcased

/-! ## The simple mapping -/

/-- The second run begins after the end of the first. -/
def CaseRun.Before (run run' : CaseRun) : Prop := run.first ≤ run.last ∧ run.last < run'.first

instance (run run' : CaseRun) : Decidable (run.Before run') := inferInstanceAs (Decidable (_ ∧ _))

instance : Trans CaseRun.Before CaseRun.Before CaseRun.Before :=
  ⟨fun h h' => ⟨h.1, Nat.lt_trans h.2 (Nat.lt_of_le_of_lt h'.1 h'.2)⟩⟩

/-- The runs follow each other, -/
theorem pairwise_lowerRuns : lowerRuns.Pairwise CaseRun.Before := by
  have hchain : lowerRuns.IsChain CaseRun.Before := by decide +kernel
  exact hchain.pairwise

/-- above ASCII, -/
theorem ascii_lt_run : ∀ run ∈ lowerRuns, 0x7F < run.first := by
  decide +kernel

/-- and none leads to a surrogate or past the last code point. -/
theorem isValidChar_run : ∀ run ∈ lowerRuns,
    if run.up then run.last + run.shift < 0xD800 ∨
        0xDFFF < run.first + run.shift ∧ run.last + run.shift < 0x110000
    else run.shift ≤ run.first ∧ (run.last - run.shift < 0xD800 ∨
        0xDFFF < run.first - run.shift ∧ run.last - run.shift < 0x110000) := by
  decide +kernel

theorem OnRun.lt {n : Nat} {run : CaseRun} (h : OnRun n run) : 0x7F < n :=
  Nat.lt_of_lt_of_le (ascii_lt_run run h.1) h.2.1

/-- A code point lies on one run at the most. -/
theorem OnRun.unique {n : Nat} {run run' : CaseRun} (h : OnRun n run) (h' : OnRun n run') :
    run = run' := by
  obtain ⟨i, hi, rfl⟩ := List.getElem_of_mem h.1
  obtain ⟨j, hj, rfl⟩ := List.getElem_of_mem h'.1
  have hruns := List.pairwise_iff_getElem.mp pairwise_lowerRuns
  obtain hij | rfl | hij := Nat.lt_trichotomy i j
  · exact absurd (Nat.lt_of_le_of_lt h.2.2.1 (hruns i j hi hj hij).2) (Nat.not_lt.mpr h'.2.1)
  · rfl
  · exact absurd (Nat.lt_of_le_of_lt h'.2.2.1 (hruns j i hj hi hij).2) (Nat.not_lt.mpr h.2.1)

/-- A run moves what lies on it to a code point of a character, and by as
much as it says. -/
theorem OnRun.move {n : Nat} {run : CaseRun} (h : OnRun n run) :
    (run.move n).isValidChar ∧
      if run.up then run.move n = n + run.shift else n = run.move n + run.shift := by
  have hvalid := isValidChar_run run h.1
  obtain ⟨-, hfirst, hlast, -⟩ := h
  rw [CaseRun.move, Nat.isValidChar]
  split at hvalid <;> rename_i hup
  · rw [if_pos hup, if_pos hup]
    omega
  · rw [if_neg hup, if_neg hup]
    omega

theorem moves_iff {n m : Nat} : Moves n m ↔
    (0x41 ≤ n ∧ n ≤ 0x5A) ∧ m = n + 32 ∨ ∃ run, OnRun n run ∧ m = run.move n := by
  constructor
  · rintro (⟨hlow, hhigh⟩ | ⟨hrun, hup⟩ | ⟨hrun, hup⟩)
    · exact .inl ⟨⟨hlow, hhigh⟩, rfl⟩
    · exact .inr ⟨_, hrun, by rw [CaseRun.move, if_pos hup]⟩
    · refine .inr ⟨_, hrun, ?_⟩
      rw [CaseRun.move, if_neg (by simp [hup]), Nat.add_sub_cancel]
  · rintro (⟨⟨hlow, hhigh⟩, rfl⟩ | ⟨run, hrun, rfl⟩)
    · exact .ascii hlow hhigh
    · obtain ⟨-, hmove⟩ := hrun.move
      split at hmove <;> rename_i hup
      · rw [hmove]
        exact .up hrun hup
      · rw [hmove] at hrun
        nth_rewrite 1 [hmove]
        exact .down hrun (by simpa using hup)

/-- In ASCII only the capitals move, -/
theorem Moves.of_ascii {n m : Nat} (h : Moves n m) (hn : n < 0x80) :
    (0x41 ≤ n ∧ n ≤ 0x5A) ∧ m = n + 32 :=
  (moves_iff.mp h).resolve_right fun ⟨_, hrun, _⟩ => absurd hrun.lt (by omega)

/-- and above it what lies on a run. -/
theorem Moves.exists_run {n m : Nat} (h : Moves n m) (hn : ¬ n < 0x80) :
    ∃ run, OnRun n run ∧ m = run.move n :=
  (moves_iff.mp h).resolve_left fun ⟨⟨_, hhigh⟩, _⟩ => absurd hhigh (by omega)

/-- A code point moves to one other at the most. -/
theorem Moves.unique {n m m' : Nat} (h : Moves n m) (h' : Moves n m') : m = m' := by
  by_cases hn : n < 0x80
  · rw [(h.of_ascii hn).2, (h'.of_ascii hn).2]
  · obtain ⟨run, hrun, rfl⟩ := h.exists_run hn
    obtain ⟨run', hrun', rfl⟩ := h'.exists_run hn
    rw [hrun.unique hrun']

theorem covers_iff {n : Nat} {run : CaseRun} (hrun : run ∈ lowerRuns) :
    run.covers n = true ↔ OnRun n run := by
  simp only [CaseRun.covers, Bool.and_eq_true, decide_eq_true_iff, beq_iff_eq, OnRun,
    Nat.dvd_iff_mod_eq_zero, hrun, true_and, and_assoc]

theorem lowerChar_ascii {c : Char} (h : c.toNat < 0x80) :
    Moves c.toNat (lowerChar c).toNat ∨ lowerChar c = c ∧ ∀ n, ¬ Moves c.toNat n := by
  rw [lowerChar, if_pos h, asciiLowerChar]
  split
  · rename_i hcapital
    have hlow : 0x41 ≤ c.toNat := hcapital.1
    have hhigh : c.toNat ≤ 0x5A := hcapital.2
    left
    rw [toNat_ofNat (Or.inl (by omega))]
    exact .ascii hlow hhigh
  · rename_i hcapital
    exact .inr ⟨rfl, fun n hmoves => hcapital (hmoves.of_ascii h).1⟩

/-- **The simple mapping**: a character that moves is moved to where it
moves, and any other is kept. -/
theorem moves_lowerChar (c : Char) :
    Moves c.toNat (lowerChar c).toNat ∨ lowerChar c = c ∧ ∀ n, ¬ Moves c.toNat n := by
  by_cases hascii : c.toNat < 0x80
  · exact lowerChar_ascii hascii
  · rw [lowerChar, if_neg hascii]
    split
    · rename_i run hfind
      have hcovers : run.covers c.toNat = true :=
        List.find?_some (p := fun run : CaseRun => run.covers _) hfind
      have hrun := (covers_iff (List.mem_of_find?_eq_some hfind)).mp hcovers
      left
      rw [toNat_ofNat hrun.move.1]
      exact moves_iff.mpr (.inr ⟨run, hrun, rfl⟩)
    · rename_i hfind
      refine .inr ⟨rfl, fun n hmoves => ?_⟩
      obtain ⟨run, hrun, -⟩ := hmoves.exists_run hascii
      exact List.find?_eq_none.mp hfind run hrun.1 ((covers_iff hrun.1).mpr hrun)

theorem lowerChar_of_moves {c d : Char} (h : Moves c.toNat d.toNat) : lowerChar c = d := by
  obtain hmoves | ⟨-, hkept⟩ := moves_lowerChar c
  · exact Char.toNat_inj.mp (hmoves.unique h)
  · exact absurd h (hkept _)

theorem lowerChar_of_kept {c : Char} (h : ∀ n, ¬ Moves c.toNat n) : lowerChar c = c := by
  obtain hmoves | ⟨hkept, -⟩ := moves_lowerChar c
  · exact absurd hmoves (h _)
  · exact hkept

/-! ## A text -/

theorem endsWord_iff {before after : List Char} : EndsWord before.reverse after ↔
    (reachesCased before && !reachesCased after) = true := by
  rw [EndsWord, List.reverse_reverse, Bool.and_eq_true, Bool.not_eq_true', ← Bool.not_eq_true,
    reachesCased_iff, reachesCased_iff]

/-- **A character becomes what is computed**, and nothing else. -/
theorem image_iff {before after image : List Char} {c : Char} :
    Image before.reverse after c image ↔ image = lowerImage before after c := by
  rw [lowerImage]
  constructor
  · rintro (hends | hends | - | ⟨hsigma, hdotted, hmoves⟩ | ⟨hsigma, hdotted, hkept⟩)
    · rw [if_pos rfl, if_pos (endsWord_iff.mp hends)]
    · rw [if_pos rfl, if_neg (mt endsWord_iff.mpr hends)]
    · rw [if_neg (by decide), if_pos rfl]
    · rw [if_neg hsigma, if_neg hdotted, lowerChar_of_moves hmoves]
    · rw [if_neg hsigma, if_neg hdotted, lowerChar_of_kept hkept]
  · rintro rfl
    by_cases hsigma : c = 'Σ'
    · subst hsigma
      rw [if_pos rfl]
      split <;> rename_i hends
      · exact .finalSigma (endsWord_iff.mpr hends)
      · exact .sigma (mt endsWord_iff.mp hends)
    · rw [if_neg hsigma]
      by_cases hdotted : c = 'İ'
      · subst hdotted
        rw [if_pos rfl]
        exact .dottedI
      · rw [if_neg hdotted]
        obtain hmoves | ⟨heq, hkept⟩ := moves_lowerChar c
        · exact .moved hsigma hdotted hmoves
        · rw [heq]
          exact .kept hsigma hdotted hkept

/-- The characters of the second list, of which the first precede, become
the third. -/
inductive LoweredFrom : List Char → List Char → List Char → Prop
  | nil {before : List Char} : LoweredFrom before [] []
  | cons {before after image rest : List Char} {c : Char} : Image before after c image →
      LoweredFrom (before ++ [c]) after rest → LoweredFrom before (c :: after) (image ++ rest)

/-- The second text is the first in lower case. -/
def Lowered (s t : String) : Prop := LoweredFrom [] s.toList t.toList

theorem loweredFrom_iff (before : List Char) {cs out : List Char} :
    LoweredFrom before.reverse cs out ↔ out = lowerList before cs := by
  induction cs generalizing before out with
  | nil =>
    constructor
    · rintro ⟨⟩
      rfl
    · rintro rfl
      exact .nil
  | cons c cs ih =>
    rw [lowerList]
    constructor
    · rintro (- | ⟨himage, hrest⟩)
      rw [← List.reverse_cons] at hrest
      rw [image_iff.mp himage, (ih (c :: before)).mp hrest]
    · rintro rfl
      refine .cons (image_iff.mpr rfl) ?_
      rw [← List.reverse_cons]
      exact (ih (c :: before)).mpr rfl

/-- **A text has one lower case**, and it is the computed one. -/
theorem lowered_iff {s t : String} : Lowered s t ↔ t = lower s := by
  rw [Lowered, lower, ← String.toList_inj, String.toList_ofList]
  exact loweredFrom_iff []

/-! ## Texts that differ in case -/

/-- The code point of an ASCII letter. -/
def IsLetter (n : Nat) : Prop := 0x41 ≤ n ∧ n ≤ 0x5A ∨ 0x61 ≤ n ∧ n ≤ 0x7A

/-- The same character, or an ASCII letter in its two cases. -/
inductive SameLetter : Char → Char → Prop
  | same {c : Char} : SameLetter c c
  | small {c d : Char} : 'A' ≤ c → c ≤ 'Z' → d.toNat = c.toNat + 32 → SameLetter c d
  | capital {c d : Char} : 'A' ≤ d → d ≤ 'Z' → c.toNat = d.toNat + 32 → SameLetter c d

/-- The texts differ in the case of ASCII letters at the most. -/
def SameLetters (s t : String) : Prop := List.Forall₂ SameLetter s.toList t.toList

theorem inRanges_iff {table : List (Nat × Nat)} {n : Nat} :
    inRanges table n = true ↔ ∃ range ∈ table, range.1 ≤ n ∧ n ≤ range.2 := by
  simp [inRanges]

/-- A letter is cased and not case-ignorable. -/
theorem cased_of_isLetter {c : Char} (h : IsLetter c.toNat) :
    isCaseIgnorable c = false ∧ isCased c = true := by
  have hothers : ∀ range ∈ caseIgnorableRanges,
      range.2 < 0x41 ∨ 0x5A < range.1 ∧ range.2 < 0x61 ∨ 0x7A < range.1 := by decide +kernel
  constructor
  · rw [isCaseIgnorable, ← Bool.not_eq_true, inRanges_iff]
    rintro ⟨range, hrange, hlow, hhigh⟩
    have hother := hothers range hrange
    rcases h with h | h <;> omega
  · rw [isCased, inRanges_iff]
    rcases h with ⟨hlow, hhigh⟩ | ⟨hlow, hhigh⟩
    · exact ⟨(0x41, 0x5A), by decide, hlow, hhigh⟩
    · exact ⟨(0x61, 0x7A), by decide, hlow, hhigh⟩

/-- A capital and the small letter have one lower case. -/
theorem lowerChar_capital {c d : Char} (hlow : 0x41 ≤ c.toNat) (hhigh : c.toNat ≤ 0x5A)
    (hd : d.toNat = c.toNat + 32) : lowerChar c = lowerChar d := by
  have hkept : ∀ n, ¬ Moves d.toNat n := by
    intro n hmoves
    have hcapital := (hmoves.of_ascii (by omega)).1
    omega
  have hmoves : Moves c.toNat d.toNat := by
    rw [hd]
    exact .ascii hlow hhigh
  rw [lowerChar_of_moves hmoves, lowerChar_of_kept hkept]

theorem SameLetter.eq_or_letters {c d : Char} (h : SameLetter c d) :
    c = d ∨ IsLetter c.toNat ∧ IsLetter d.toNat ∧ lowerChar c = lowerChar d := by
  rcases h with - | ⟨hlow, hhigh, hd⟩ | ⟨hlow, hhigh, hc⟩
  · exact .inl rfl
  · have hlow : 0x41 ≤ c.toNat := hlow
    have hhigh : c.toNat ≤ 0x5A := hhigh
    exact .inr ⟨.inl ⟨hlow, hhigh⟩, .inr (by omega), lowerChar_capital hlow hhigh hd⟩
  · have hlow : 0x41 ≤ d.toNat := hlow
    have hhigh : d.toNat ≤ 0x5A := hhigh
    exact .inr ⟨.inr (by omega), .inl ⟨hlow, hhigh⟩, (lowerChar_capital hlow hhigh hc).symm⟩

theorem reachesCased_cons (c : Char) (cs : List Char) :
    reachesCased (c :: cs) = if isCaseIgnorable c then reachesCased cs else isCased c := by
  by_cases hc : isCaseIgnorable c = true
  · rw [reachesCased, List.dropWhile_cons_of_pos hc, if_pos hc, reachesCased]
  · rw [reachesCased, List.dropWhile_cons_of_neg hc, if_neg hc]

/-- Whether a cased character comes next is no matter of its case, -/
theorem reachesCased_congr {cs ds : List Char} (h : List.Forall₂ SameLetter cs ds) :
    reachesCased cs = reachesCased ds := by
  induction h with
  | nil => rfl
  | @cons c d cs ds hletter _ ih =>
    rw [reachesCased_cons, reachesCased_cons, ih]
    obtain rfl | ⟨hc, hd, -⟩ := hletter.eq_or_letters
    · rfl
    · obtain ⟨hignorable, hcased⟩ := cased_of_isLetter hc
      obtain ⟨hignorable', hcased'⟩ := cased_of_isLetter hd
      rw [hignorable, hignorable', hcased, hcased']

theorem lowerImage_congr {before before' after after' : List Char} {c d : Char}
    (hbefore : List.Forall₂ SameLetter before before') (hletter : SameLetter c d)
    (hafter : List.Forall₂ SameLetter after after') :
    lowerImage before after c = lowerImage before' after' d := by
  rw [lowerImage, lowerImage, reachesCased_congr hbefore, reachesCased_congr hafter]
  obtain rfl | ⟨hc, hd, hlower⟩ := hletter.eq_or_letters
  · rfl
  · have hspecial : ∀ {c : Char}, IsLetter c.toNat → c ≠ 'Σ' ∧ c ≠ 'İ' := by
      intro c hc
      constructor <;> rintro rfl <;> rcases hc with ⟨-, hhigh⟩ | ⟨-, hhigh⟩ <;>
        exact absurd hhigh (by decide)
    rw [if_neg (hspecial hc).1, if_neg (hspecial hc).2, if_neg (hspecial hd).1,
      if_neg (hspecial hd).2, hlower]

theorem lowerList_congr {before before' cs ds : List Char}
    (hbefore : List.Forall₂ SameLetter before before') (h : List.Forall₂ SameLetter cs ds) :
    lowerList before cs = lowerList before' ds := by
  induction h generalizing before before' with
  | nil => rfl
  | cons hletter hrest ih =>
    rw [lowerList, lowerList, lowerImage_congr hbefore hletter hrest, ih (.cons hletter hbefore)]

/-- and so **texts that differ in the case of letters have one lower
case**. -/
theorem lower_congr {s t : String} (h : SameLetters s t) : lower s = lower t := by
  rw [lower, lower, lowerList_congr .nil h]

end Text

end Turnstile
