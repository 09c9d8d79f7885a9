import Turnstile.Proofs.Text.Width
import Turnstile.Text.Cap
/-!
# Capping — the longest start that fits

Characters are taken while the budget lasts, so what is kept is a start of
the text within the cap (`truncate_prefix`, `truncate_le`), no longer start
is within it (`truncate_longest`), and it is the whole text exactly if that
is (`truncate_eq_iff`).
-/

namespace Turnstile

namespace Text

/-- What is taken, and that the next character would not fit. -/
theorem takeBytes_go (left : Nat) (taken cs : List Char) :
    ∃ fit rest, cs = fit ++ rest ∧ takeBytes.go left taken cs = taken.reverse ++ fit ∧
      size fit ≤ left ∧ ∀ c ∈ rest.head?, left < size fit + c.utf8Size := by
  induction cs generalizing left taken with
  | nil => exact ⟨[], [], rfl, by rw [takeBytes.go, List.append_nil], Nat.zero_le _, by simp⟩
  | cons c cs ih =>
    rw [takeBytes.go]
    split
    · rename_i hfits
      obtain ⟨fit, rest, rfl, hgo, hsize, hnext⟩ := ih (left - c.utf8Size) (c :: taken)
      refine ⟨c :: fit, rest, rfl, ?_, ?_, fun next hmem => ?_⟩
      · rw [hgo, List.reverse_cons, List.append_assoc, List.singleton_append]
      · rw [size_cons]
        omega
      · have h := hnext next hmem
        rw [size_cons]
        omega
    · rename_i hfits
      refine ⟨[], c :: cs, rfl, (List.append_nil _).symm, Nat.zero_le _, fun next hmem => ?_⟩
      rw [← Option.some.inj (Option.mem_def.mp hmem)]
      change left < 0 + c.utf8Size
      omega

theorem truncate_of_le {s : String} {max : Nat} (h : s.utf8ByteSize ≤ max) :
    truncate s max = s := by
  rw [truncate, if_pos h]

/-- A text is what is kept of it and a rest that begins with a character
too many. -/
theorem exists_rest (s : String) (max : Nat) :
    ∃ rest, s.toList = (truncate s max).toList ++ rest ∧ (truncate s max).utf8ByteSize ≤ max ∧
      ∀ c ∈ rest.head?, max < (truncate s max).utf8ByteSize + c.utf8Size := by
  rw [truncate]
  split
  · rename_i hle
    exact ⟨[], (List.append_nil _).symm, hle, by simp⟩
  · obtain ⟨fit, rest, hcs, hgo, hsize, hnext⟩ := takeBytes_go max [] s.toList
    have hkept : takeBytes max s.toList = fit := hgo
    rw [hkept, String.toList_ofList, utf8ByteSize_ofList]
    exact ⟨rest, hcs, hsize, hnext⟩

theorem truncate_prefix (s : String) (max : Nat) : (truncate s max).toList <+: s.toList := by
  obtain ⟨rest, hrest, -, -⟩ := exists_rest s max
  exact ⟨rest, hrest.symm⟩

theorem truncate_le (s : String) (max : Nat) : (truncate s max).utf8ByteSize ≤ max := by
  obtain ⟨rest, -, hle, -⟩ := exists_rest s max
  exact hle

/-- **No longer start of the text fits.** -/
theorem truncate_longest {s start : String} {max : Nat} (hstart : start.toList <+: s.toList)
    (hfits : start.utf8ByteSize ≤ max) :
    start.utf8ByteSize ≤ (truncate s max).utf8ByteSize := by
  obtain ⟨rest, hrest, -, hnext⟩ := exists_rest s max
  have hkept : (truncate s max).toList <+: s.toList := ⟨rest, hrest.symm⟩
  rw [utf8ByteSize_eq start] at hfits ⊢
  rw [utf8ByteSize_eq (truncate s max)] at hnext ⊢
  rcases List.prefix_or_prefix_of_prefix hstart hkept with ⟨more, hmore⟩ | ⟨more, hmore⟩
  · rw [← hmore, size_append]
    omega
  · -- what it has more begins with the character that does not fit
    rw [← hmore, size_append] at hfits
    rw [← hmore, hrest, List.prefix_append_right_inj] at hstart
    rw [← hmore, size_append]
    cases more with
    | nil => exact Nat.le_refl _
    | cons c more =>
      obtain ⟨others, hothers⟩ := hstart
      have htoo := hnext c (by rw [← hothers]; rfl)
      rw [size_cons] at hfits
      omega

/-- **The whole text is kept exactly if it fits.** -/
theorem truncate_eq_iff (s : String) (max : Nat) :
    truncate s max = s ↔ s.utf8ByteSize ≤ max := by
  refine ⟨fun h => ?_, truncate_of_le⟩
  rw [← h]
  exact truncate_le s max

end Text

end Turnstile
