import Turnstile.Policy
import Turnstile.Proofs.Files.Names
import Mathlib.Data.List.TakeWhile
/-!
# The allow list — hosts compared label by label

A host is a sequence of labels, its pieces between dots, and so is an
entry of an allow list once its wildcard is gone. What a policy compares
are texts: one is the other, or ends in a dot and the other. Cut at the
dots, that is one sequence of labels ending in the other
(`Text.splitOn_suffix_splitOn`), so an entry stands for the name it holds
and for the names below it, and never for part of a label.

What is taken off either side before that is said here by what there was
and what is left of it (`EntryStem`, `HostStem`), apart from how it is
done.
-/

namespace Turnstile

namespace Text

variable {α : Type} {sep : α}

/-- Joining two lists of pieces puts a separator between them. -/
theorem intercalate_append {front back : List (List α)} (hfront : front ≠ [])
    (hback : back ≠ []) :
    [sep].intercalate (front ++ back) =
      [sep].intercalate front ++ sep :: [sep].intercalate back := by
  induction front with
  | nil => exact absurd rfl hfront
  | cons piece rest ih =>
    cases rest with
    | nil =>
      obtain ⟨next, more, rfl⟩ := List.exists_cons_of_ne_nil hback
      rw [List.singleton_append, List.intercalate_cons_cons, List.intercalate_singleton]
      simp
    | cons next more =>
      rw [List.cons_append, List.cons_append, List.intercalate_cons_cons,
        List.intercalate_cons_cons, ← List.cons_append, ih (by simp)]
      simp

/-- **The pieces of one list end in those of another** exactly if the list
is the other, or ends in a separator and the other. -/
theorem splitOn_suffix_splitOn [DecidableEq α] {xs ys : List α} :
    ys.splitOn sep <:+ xs.splitOn sep ↔ xs = ys ∨ sep :: ys <:+ xs := by
  constructor
  · rintro ⟨front, hfront⟩
    have hxs : [sep].intercalate (front ++ ys.splitOn sep) = xs := by
      rw [hfront, List.intercalate_splitOn]
    by_cases hnil : front = []
    · rw [hnil, List.nil_append, List.intercalate_splitOn] at hxs
      exact Or.inl hxs.symm
    · rw [intercalate_append hnil (List.splitOn_ne_nil _ _), List.intercalate_splitOn] at hxs
      exact Or.inr ⟨_, hxs⟩
  · rintro (rfl | ⟨front, rfl⟩)
    · exact List.suffix_rfl
    · rw [List.splitOn_append_cons_self]
      exact List.suffix_append ..

end Text

namespace Policy

/-! ## What is compared -/

/-- The labels of a name. -/
def labels (name : List Char) : List (List Char) := name.splitOn '.'

/-- A name in small letters. -/
def small (name : List Char) : List Char := name.map Text.asciiLowerChar

/-- What is left of an entry: every leading `*.` is off, and then every
leading dot. -/
def EntryStem (entry : String) (stem : List Char) : Prop :=
  ∃ wildcards dots,
    entry.toList = (List.replicate wildcards ['*', '.']).flatten ++
      (List.replicate dots '.' ++ stem) ∧
    ¬ ['*', '.'] <+: List.replicate dots '.' ++ stem ∧ stem.head? ≠ some '.'

/-- What is left of a host: every dot at its end is off. -/
def HostStem (host : String) (stem : List Char) : Prop :=
  ∃ dots, host.toList = stem ++ List.replicate dots '.' ∧ stem.getLast? ≠ some '.'

/-- Dots that come first and are followed by something else are what is
dropped. -/
theorem dropWhile_dots {dots : Nat} {rest : List Char} (h : rest.head? ≠ some '.') :
    (List.replicate dots '.' ++ rest).dropWhile (· == '.') = rest := by
  rw [List.dropWhile_append_of_pos (by simp)]
  cases rest with
  | nil => rfl
  | cons c cs =>
    have hc : (c == '.') = false := by simpa using h
    exact List.dropWhile_cons_of_neg (by simp [hc])

/-- So is what is dropped, dots. -/
theorem exists_dots (cs : List Char) :
    ∃ dots, cs = List.replicate dots '.' ++ cs.dropWhile (· == '.') ∧
      (cs.dropWhile (· == '.')).head? ≠ some '.' := by
  have hdots : cs.takeWhile (· == '.') =
      List.replicate (cs.takeWhile (· == '.')).length '.' :=
    List.eq_replicate_iff.mpr ⟨rfl, fun c hc => by simpa using List.mem_takeWhile_imp hc⟩
  refine ⟨(cs.takeWhile (· == '.')).length, ?_, ?_⟩
  · rw [← hdots, List.takeWhile_append_dropWhile]
  · intro h
    have := List.head?_dropWhile_not (· == '.') cs
    simp [h] at this

theorem dropWildcards_of_not_prefix {cs : List Char} (h : ¬ ['*', '.'] <+: cs) :
    dropWildcards cs = cs := by
  fun_cases dropWildcards cs with
  | case1 rest => exact absurd (List.prefix_append ['*', '.'] rest) h
  | case2 => rfl

theorem dropWildcards_append (wildcards : Nat) (rest : List Char) :
    dropWildcards ((List.replicate wildcards ['*', '.']).flatten ++ rest) = dropWildcards rest := by
  induction wildcards with
  | zero => rfl
  | succ n ih =>
    rw [List.replicate_succ, List.flatten_cons, List.append_assoc]
    exact ih

theorem exists_wildcards (cs : List Char) :
    ∃ wildcards, cs = (List.replicate wildcards ['*', '.']).flatten ++ dropWildcards cs ∧
      ¬ ['*', '.'] <+: dropWildcards cs := by
  fun_induction dropWildcards cs with
  | case1 rest ih =>
    obtain ⟨wildcards, hrest, hnot⟩ := ih
    refine ⟨wildcards + 1, ?_, hnot⟩
    rw [List.replicate_succ, List.flatten_cons, List.append_assoc, ← hrest]
    rfl
  | case2 cs hne =>
    refine ⟨0, rfl, ?_⟩
    rintro ⟨rest, rfl⟩
    exact hne rest rfl

/-- **What is compared of an entry** is what is left of it. -/
theorem EntryStem.canonicalEntry_eq {entry : String} {stem : List Char} (h : EntryStem entry stem) :
    canonicalEntry entry = small stem := by
  obtain ⟨wildcards, dots, hentry, hwild, hdot⟩ := h
  rw [canonicalEntry, hentry, dropWildcards_append, dropWildcards_of_not_prefix hwild,
    dropWhile_dots hdot, small]

/-- Of every entry something is left, be it nothing at all. -/
theorem exists_entryStem (entry : String) : ∃ stem, EntryStem entry stem := by
  obtain ⟨wildcards, hentry, hwild⟩ := exists_wildcards entry.toList
  obtain ⟨dots, hdots, hdot⟩ := exists_dots (dropWildcards entry.toList)
  refine ⟨_, wildcards, dots, ?_, ?_, hdot⟩
  · rw [← hdots, ← hentry]
  · rwa [← hdots]

/-- **What is compared of a host** is what is left of it. -/
theorem HostStem.canonicalHost_eq {host : String} {stem : List Char} (h : HostStem host stem) :
    canonicalHost host = small stem := by
  obtain ⟨dots, hhost, hdot⟩ := h
  have hrev : stem.reverse.head? ≠ some '.' := by rwa [List.head?_reverse]
  rw [canonicalHost, hhost, Text.dropEndWhile, List.reverse_append, List.reverse_replicate,
    dropWhile_dots hrev, List.reverse_reverse, small]

theorem exists_hostStem (host : String) : ∃ stem, HostStem host stem := by
  obtain ⟨dots, hdots, hdot⟩ := exists_dots host.toList.reverse
  refine ⟨Text.dropEndWhile (· == '.') host.toList, dots, ?_, ?_⟩
  · rw [Text.dropEndWhile, ← List.reverse_replicate, ← List.reverse_append, ← hdots, List.reverse_reverse]
  · rwa [Text.dropEndWhile, List.getLast?_reverse]

/-! ## What an entry lets through -/

/-- **An entry names a host**: its labels are the last of the host's, letter
case aside. -/
def Names (entry host : String) : Prop :=
  ∃ stem name, EntryStem entry stem ∧ HostStem host name ∧
    labels (small stem) <:+ labels (small name)

/-- Texts are compared as sequences of labels. -/
theorem entryMatches_iff (host entry : List Char) :
    entryMatches host entry = true ↔ labels entry <:+ labels host := by
  rw [labels, labels, Text.splitOn_suffix_splitOn, entryMatches, Bool.or_eq_true, beq_iff_eq,
    List.isSuffixOf_iff_suffix]

theorem names_iff (entry host : String) :
    Names entry host ↔ entryMatches (canonicalHost host) (canonicalEntry entry) = true := by
  rw [entryMatches_iff]
  constructor
  · rintro ⟨stem, name, hentry, hhost, hsuffix⟩
    rwa [hentry.canonicalEntry_eq, hhost.canonicalHost_eq]
  · intro h
    obtain ⟨stem, hentry⟩ := exists_entryStem entry
    obtain ⟨name, hhost⟩ := exists_hostStem host
    rw [hentry.canonicalEntry_eq, hhost.canonicalHost_eq] at h
    exact ⟨stem, name, hentry, hhost, h⟩

/-- **A host is let through** if one of the entries names it. -/
theorem hostAllowed_iff {p : Policy} (hp : p.network = .allowList) (host : String) :
    p.hostAllowed host = true ↔ ∃ entry ∈ p.allowedHosts, Names entry host := by
  rw [hostAllowed, hp]
  simp only [List.any_eq_true, names_iff]

/-! ## What follows from it -/

/-- Only a dot is a dot in small letters. -/
theorem asciiLowerChar_eq_dot {c : Char} (h : Text.asciiLowerChar c = '.') : c = '.' := by
  rw [Text.asciiLowerChar] at h
  split at h
  · rename_i hcapital
    have hlow : 65 ≤ c.toNat := hcapital.1
    have hhigh : c.toNat ≤ 90 := hcapital.2
    have hvalid : (c.toNat + 32).isValidChar := Or.inl (by omega)
    have hsmall : '.'.toNat = c.toNat + 32 := by
      rw [← h, Text.toNat_ofNat hvalid]
    have hdot : '.'.toNat = 46 := rfl
    omega
  · exact h

/-- What is left of a host does not end in a dot in small letters either. -/
theorem HostStem.not_dot_suffix {host : String} {name : List Char} (h : HostStem host name) :
    ¬ ['.'] <:+ small name := by
  obtain ⟨-, -, hdot⟩ := h
  rintro ⟨lead, hlead⟩
  obtain ⟨init, last, rfl⟩ : ∃ init last, name = init ++ [last] := by
    refine (List.eq_nil_or_concat' name).resolve_left ?_
    rintro rfl
    simp [small] at hlead
  have hlast : Text.asciiLowerChar last = '.' := by
    rw [small, List.map_append, List.map_singleton] at hlead
    exact (List.cons.inj (List.append_inj_right' hlead rfl)).1.symm
  exact hdot (by simp [asciiLowerChar_eq_dot hlast])

/-- **A host that ends in an entry inside one of its labels** is not named
by it. -/
theorem not_names_of_inside {entry host : String} {stem name lead : List Char} {c : Char}
    (hentry : EntryStem entry stem) (hhost : HostStem host name)
    (hinside : small name = lead ++ c :: small stem) (hc : c ≠ '.') : ¬ Names entry host := by
  rw [names_iff, hentry.canonicalEntry_eq, hhost.canonicalHost_eq, entryMatches_iff, labels,
    labels, Text.splitOn_suffix_splitOn, hinside]
  rintro (hsame | ⟨front, hfront⟩)
  · have := congrArg List.length hsame
    simp only [List.length_append, List.length_cons] at this
    omega
  · have hcons := List.append_inj_right' hfront rfl
    exact hc (List.cons.inj hcons).1.symm

/-- **An entry of which nothing is left** names no host but one of dots. -/
theorem not_names_of_nothing {entry host : String} (hentry : EntryStem entry [])
    (hhost : ∃ c ∈ host.toList, c ≠ '.') : ¬ Names entry host := by
  obtain ⟨name, hname⟩ := exists_hostStem host
  rw [names_iff, hentry.canonicalEntry_eq, hname.canonicalHost_eq, entryMatches_iff, labels,
    labels, Text.splitOn_suffix_splitOn]
  rintro (hnil | hdot)
  · obtain ⟨dots, hdots, -⟩ := hname
    rw [List.map_eq_nil_iff.mp hnil, List.nil_append] at hdots
    obtain ⟨c, hc, hne⟩ := hhost
    rw [hdots] at hc
    exact hne (List.eq_of_mem_replicate hc)
  · exact hname.not_dot_suffix hdot

/-- A policy with other entries. -/
def listing (p : Policy) (hosts : List String) : Policy := { p with allowedHosts := hosts }

/-- **The allow list is read label by label.** -/
structure LabelWise (p : Policy) (host : String) : Prop where
  /-- A host is let through exactly if an entry names it. -/
  allowed_iff : p.hostAllowed host = true ↔ ∃ entry ∈ p.allowedHosts, Names entry host
  /-- Part of a label is never enough: where the host ends in the entry with
  something else than a dot before it, the entry does not let it through. -/
  inside : ∀ entry stem name lead c, EntryStem entry stem → HostStem host name →
    small name = lead ++ c :: small stem → c ≠ '.' → (p.listing [entry]).hostAllowed host = false
  /-- The order of the entries and their repetition do not matter. -/
  unordered : ∀ hosts, (∀ entry, entry ∈ hosts ↔ entry ∈ p.allowedHosts) →
    (p.listing hosts).hostAllowed host = p.hostAllowed host
  /-- More entries let no less through. -/
  growing : ∀ hosts, p.allowedHosts ⊆ hosts → p.hostAllowed host = true →
    (p.listing hosts).hostAllowed host = true
  /-- An entry of wildcards and dots lets no host through that has anything
  but dots in it. -/
  nothing : ∀ entry, EntryStem entry [] → (∃ c ∈ host.toList, c ≠ '.') →
    (p.listing [entry]).hostAllowed host = false

/-- One entry alone lets through what it names. -/
theorem hostAllowed_listing_singleton {p : Policy} (hp : p.network = .allowList)
    {entry host : String} (h : ¬ Names entry host) :
    (p.listing [entry]).hostAllowed host = false := by
  rw [← Bool.not_eq_true, hostAllowed_iff (p := p.listing [entry]) hp]
  rintro ⟨entry', hmem, hnames⟩
  rw [List.mem_singleton.mp hmem] at hnames
  exact h hnames

/-- **Under an allow list hosts are let through by their labels.** -/
theorem hostAllowed_labelWise {p : Policy} (hp : p.network = .allowList) (host : String) :
    LabelWise p host where
  allowed_iff := hostAllowed_iff hp host
  inside _ _ _ _ _ hentry hhost hinside hc :=
    hostAllowed_listing_singleton hp (not_names_of_inside hentry hhost hinside hc)
  unordered hosts hsame := by
    rw [Bool.eq_iff_iff, hostAllowed_iff (p := p.listing hosts) hp, hostAllowed_iff hp]
    exact exists_congr fun entry => and_congr_left' (hsame entry)
  growing hosts hsubset hallowed := by
    obtain ⟨entry, hmem, hnames⟩ := (hostAllowed_iff hp host).mp hallowed
    exact (hostAllowed_iff (p := p.listing hosts) hp host).mpr ⟨entry, hsubset hmem, hnames⟩
  nothing _ hentry hhost :=
    hostAllowed_listing_singleton hp (not_names_of_nothing hentry hhost)

/-- Entries with wildcards, dots and capitals, and one of nothing else. -/
def mixedPolicy : Policy :=
  { default with network := .allowList, allowedHosts := ["*.*..Example.com", "*."] }

/-- A name below an entry is let through, one that only ends like it is not. -/
theorem hostAllowed_labelWise_mixed :
    mixedPolicy.network = .allowList ∧ mixedPolicy.hostAllowed "API.eXample.com.." = true ∧
    (mixedPolicy.listing ["*.*..Example.com"]).hostAllowed "badexample.com" = false ∧
    (mixedPolicy.listing ["*."]).hostAllowed "com" = false := by
  have hentry : EntryStem "*.*..Example.com" "Example.com".toList :=
    ⟨2, 1, by decide, by decide, by decide⟩
  have hnothing : EntryStem "*." [] := ⟨1, 0, by decide, by decide, by decide⟩
  have hallowed := hostAllowed_labelWise (p := mixedPolicy) rfl "API.eXample.com.."
  have hbad := hostAllowed_labelWise (p := mixedPolicy) rfl "badexample.com"
  have hcom := hostAllowed_labelWise (p := mixedPolicy) rfl "com"
  refine ⟨rfl, hallowed.allowed_iff.mpr ⟨"*.*..Example.com", by decide, ?_⟩, ?_, ?_⟩
  · exact ⟨_, "API.eXample.com".toList, hentry, ⟨2, by decide, by decide⟩, by decide⟩
  · exact hbad.inside _ _ "badexample.com".toList ['b', 'a'] 'd' hentry ⟨0, by decide, by decide⟩
      (by decide) (by decide)
  · exact hcom.nothing _ hnothing ⟨'c', by decide, by decide⟩

end Policy

end Turnstile
