import Turnstile.Proofs.Text.Cap
/-!
# Boundaries — where a text may be cut

In the bytes of a text the first byte of each character goes on with
nothing and the others do (`goesOn_encodedChar`). So the place to cut at is
found from the cap by stepping back over bytes that go on, three at the
most, and what is kept is the longest start within the cap
(`truncate_cuts`). There is only one such start (`LongestStart.unique`), so
to cut twice is to cut at the smaller cap.
-/

namespace Turnstile

namespace Text

open Utf8 (encode bytesOf)

/-! ## Bytes that go on with a character -/

/-- The byte goes on with a character begun before it. -/
def goesOn (b : UInt8) : Bool := 0x80 ≤ b && b < 0xC0

/-- From a place in some bytes back to the nearest at which nothing goes on. -/
def stepBack (bytes : Bytes) : Nat → Nat
  | 0 => 0
  | i + 1 => if (bytes[i + 1]?).any goesOn then stepBack bytes i else i + 1

theorem goesOn_iff (b : UInt8) : goesOn b = true ↔ 0x80 ≤ b.toNat ∧ b.toNat < 0xC0 := by
  simp only [goesOn, Bool.and_eq_true, decide_eq_true_eq, UInt8.le_iff_toNat_le,
    UInt8.lt_iff_toNat_lt]
  rfl

theorem goesOn_continuation (n : Nat) : goesOn (UInt8.ofNat (n % 64 + 128)) = true := by
  rw [goesOn_iff, Utf8.toNat_continuation]
  omega

theorem goesOn_lead {n : Nat} (h : n < 0x80 ∨ 0xC0 ≤ n) (hbyte : n < 256) :
    goesOn (UInt8.ofNat n) = false := by
  rw [← Bool.not_eq_true, goesOn_iff, Utf8.toNat_ofNat hbyte]
  omega

/-- **Only the first byte of a character does not go on.** -/
theorem goesOn_encodedChar (c : Char) :
    ∃ b more, String.utf8EncodeChar c = b :: more ∧ goesOn b = false ∧
      ∀ x ∈ more, goesOn x = true := by
  have hvalid : c.val.toNat < 0xD800 ∨ 0xDFFF < c.val.toNat ∧ c.val.toNat < 0x110000 := c.valid
  rw [String.utf8EncodeChar]
  generalize c.val.toNat = v at hvalid
  -- one case for each length
  split
  · exact ⟨_, _, rfl, goesOn_lead (by omega) (by omega), by simp⟩
  · have hlast : ∀ x ∈ [UInt8.ofNat (v % 64 + 128)], goesOn x = true :=
      List.forall_mem_singleton.mpr (goesOn_continuation v)
    split
    · exact ⟨_, _, rfl, goesOn_lead (by omega) (by omega), hlast⟩
    · have hlater : ∀ x ∈ [UInt8.ofNat (v / 64 % 64 + 128), UInt8.ofNat (v % 64 + 128)],
          goesOn x = true :=
        List.forall_mem_cons.mpr ⟨goesOn_continuation (v / 64), hlast⟩
      split
      · exact ⟨_, _, rfl, goesOn_lead (by omega) (by omega), hlater⟩
      · exact ⟨_, _, rfl, goesOn_lead (by omega) (by omega),
          List.forall_mem_cons.mpr ⟨goesOn_continuation (v / 4096), hlater⟩⟩

/-! ## Stepping back -/

/-- Where every byte after a place goes on and the one at it does not, that
is the place. -/
theorem stepBack_eq {bytes : Bytes} {n i : Nat} (hle : n ≤ i)
    (hat : n = 0 ∨ (bytes[n]?).any goesOn = false)
    (hafter : ∀ j, n < j → j ≤ i → (bytes[j]?).any goesOn = true) : stepBack bytes i = n := by
  induction i with
  | zero =>
    rw [stepBack]
    omega
  | succ i ih =>
    rw [stepBack]
    rcases Nat.lt_or_ge i n with hlt | hge
    · have heq : n = i + 1 := by omega
      have hno : (bytes[i + 1]?).any goesOn = false := heq ▸ hat.resolve_left (by omega)
      rw [if_neg (by rw [hno]; exact Bool.false_ne_true), heq]
    · rw [if_pos (hafter (i + 1) (by omega) (Nat.le_refl _))]
      exact ih hge fun j hj hi => hafter j hj (by omega)

/-- **Stepping back from the cap** comes to where the first character that
does not fit begins, or stays where it is if all fit. -/
theorem take_stepBack {cs fit rest : List Char} {max : Nat} (hcs : cs = fit ++ rest)
    (hfits : size fit ≤ max) (hnext : ∀ c ∈ rest.head?, max < size fit + c.utf8Size) :
    (bytesOf cs).take (stepBack (bytesOf cs) max) = bytesOf fit := by
  have hlength : (bytesOf fit).length = size fit := Utf8.length_bytesOf fit
  subst hcs
  cases rest with
  | nil =>
    rw [List.append_nil]
    -- beyond the end there is no byte to go on
    have hstay : stepBack (bytesOf fit) max = max := by
      refine stepBack_eq (Nat.le_refl max) (Or.inr ?_) fun j hj hi => absurd hj (by omega)
      rw [List.getElem?_eq_none (by omega)]
      rfl
    rw [hstay, List.take_of_length_le (by omega)]
  | cons c rest =>
    obtain ⟨b, more, hbytes, hfirst, hmore⟩ := goesOn_encodedChar c
    have hwidth : (String.utf8EncodeChar c).length = c.utf8Size := String.length_utf8EncodeChar c
    have htoo : max < size fit + c.utf8Size := hnext c rfl
    have hsplit : bytesOf (fit ++ c :: rest) = bytesOf fit ++ (b :: (more ++ bytesOf rest)) := by
      rw [bytesOf, List.flatMap_append, List.flatMap_cons, hbytes]
      rfl
    rw [hbytes, List.length_cons] at hwidth
    have hstep : stepBack (bytesOf (fit ++ c :: rest)) max = size fit := by
      rw [hsplit]
      refine stepBack_eq hfits (Or.inr ?_) fun j hj hi => ?_
      · rw [List.getElem?_append_right (by omega), hlength, Nat.sub_self]
        exact hfirst
      · obtain ⟨k, rfl⟩ : ∃ k, j = size fit + (k + 1) := ⟨j - size fit - 1, by omega⟩
        have hk : k < more.length := by omega
        rw [List.getElem?_append_right (by omega), hlength, Nat.add_sub_cancel_left,
          List.getElem?_cons_succ, List.getElem?_append_left hk, List.getElem?_eq_getElem hk]
        exact hmore _ (List.getElem_mem hk)
    rw [hstep, hsplit, ← hlength, List.take_left']
    rfl

/-! ## The longest start -/

/-- The longest start of a text, in whole characters, within a cap. -/
structure LongestStart (s : String) (max : Nat) (kept : String) : Prop where
  start : kept.toList <+: s.toList
  bound : kept.utf8ByteSize ≤ max
  longest : ∀ other : String, other.toList <+: s.toList → other.utf8ByteSize ≤ max →
    other.toList <+: kept.toList

/-- There is only one. -/
theorem LongestStart.unique {s : String} {max : Nat} {kept kept' : String}
    (h : LongestStart s max kept) (h' : LongestStart s max kept') : kept = kept' := by
  have hle := h'.longest kept h.start h.bound
  have hge := h.longest kept' h'.start h'.bound
  exact String.toList_inj.mp (hle.eq_of_length (Nat.le_antisymm hle.length_le hge.length_le))

theorem size_le_of_prefix {cs ds : List Char} (h : cs <+: ds) : size cs ≤ size ds := by
  obtain ⟨more, rfl⟩ := h
  rw [size_append]
  omega

/-- Of two starts of a text the one that is no longer is a start of the
other. -/
theorem prefix_of_size_le {cs ds es : List Char} (hc : cs <+: es) (hd : ds <+: es)
    (hle : size cs ≤ size ds) : cs <+: ds := by
  rcases List.prefix_or_prefix_of_prefix hc hd with h | ⟨more, rfl⟩
  · exact h
  · -- what it is longer by takes no byte, so it is nothing
    rw [size_append] at hle
    cases more with
    | nil => simp
    | cons c more =>
      have hpos := c.utf8Size_pos
      rw [size_cons] at hle
      omega

theorem longestStart_truncate (s : String) (max : Nat) : LongestStart s max (truncate s max) where
  start := truncate_prefix s max
  bound := truncate_le s max
  longest other hstart hfits := by
    have hle := truncate_longest hstart hfits
    rw [utf8ByteSize_eq, utf8ByteSize_eq] at hle
    exact prefix_of_size_le hstart (Text.truncate_prefix s max) hle

/-- A cap on what was kept under another is a cap on the text. -/
theorem LongestStart.trans {s kept kept' : String} {n m : Nat} (h : LongestStart s n kept)
    (h' : LongestStart kept m kept') : LongestStart s (min n m) kept' where
  start := h'.start.trans h.start
  bound := by
    have hle := size_le_of_prefix h'.start
    rw [← utf8ByteSize_eq, ← utf8ByteSize_eq] at hle
    exact Nat.le_min.mpr ⟨Nat.le_trans hle h.bound, h'.bound⟩
  longest other hstart hfits := by
    obtain ⟨hn, hm⟩ := Nat.le_min.mp hfits
    exact h'.longest other (h.longest other hstart hn) hm

/-- What cutting and capping a text at `max` bytes promise. -/
structure Cuts (s : String) (max : Nat) : Prop where
  longest : LongestStart s max (truncate s max)
  /-- In the bytes it ends where stepping back from the cap comes to. -/
  stepped : encode (truncate s max) = (encode s).take (stepBack (encode s) max)
  /-- At most three bytes are lost to a character that does not fit. -/
  near : min max s.utf8ByteSize ≤ (truncate s max).utf8ByteSize + 3
  /-- To cut what was cut is to cut at the smaller cap. -/
  again : ∀ m, truncate (truncate s max) m = truncate s (min max m)
  whole : s.utf8ByteSize ≤ max → capWithMarker s max = s
  marked : max < s.utf8ByteSize → ∃ kept, LongestStart s max kept ∧
    capWithMarker s max = kept ++ truncationMarker
  capped : (capWithMarker s max).utf8ByteSize ≤ max + truncationMarker.utf8ByteSize

/-- **Cutting keeps the longest start** of a text in whole characters, and
capping marks what was cut. -/
theorem truncate_cuts (s : String) (max : Nat) : Cuts s max := by
  obtain ⟨rest, hrest, hbound, hnext⟩ := exists_rest s max
  have hkept := longestStart_truncate s max
  exact {
    longest := hkept
    stepped := by
      rw [utf8ByteSize_eq] at hbound hnext
      rw [Utf8.encode_eq, Utf8.encode_eq, take_stepBack hrest hbound hnext]
    near := by
      rw [utf8ByteSize_eq s, hrest, size_append, ← utf8ByteSize_eq]
      cases rest with
      | nil =>
        rw [size]
        omega
      | cons c rest =>
        have htoo := hnext c rfl
        have hfour := c.utf8Size_le_four
        omega
    again := fun m => (hkept.trans (longestStart_truncate (truncate s max) m)).unique
      (longestStart_truncate s (min max m))
    whole := fun hle => by rw [capWithMarker, if_pos hle]
    marked := fun hgt => ⟨_, hkept, by rw [capWithMarker, if_neg (by omega)]⟩
    capped := by
      rw [capWithMarker]
      split
      · omega
      · rw [String.utf8ByteSize_append]
        omega }

end Text

end Turnstile
