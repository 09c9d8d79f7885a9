import Turnstile.Json.Doc
/-!
# UTF-8 — what is encoded is decoded

The bytes of a character take the decoder from owing nothing back to owing
nothing, with that character as the one symbol between
(`run_encodedChar`). So the bytes of a text are read as its characters,
and a document is the same whether its text or the bytes of it are read.
-/

namespace Turnstile

namespace Utf8

/-! ## The bytes of a text -/

theorem toList_loop (bytes : ByteArray) (i : Nat) (read : List UInt8) :
    ByteArray.toList.loop bytes i read = read.reverse ++ bytes.data.toList.drop i := by
  fun_induction ByteArray.toList.loop bytes i read with
  | case1 i read hlt ih =>
    have hi : i < bytes.data.toList.length := by simpa using hlt
    rw [ih, List.drop_eq_getElem_cons hi]
    simp [ByteArray.get!, hlt]
  | case2 i read hge =>
    have hi : bytes.data.toList.length ≤ i := by simpa using Nat.le_of_not_lt hge
    rw [List.drop_eq_nil_of_le hi, List.append_nil]

/-- The bytes of a text are those of its characters. -/
theorem encode_eq (s : String) : encode s = s.toList.flatMap String.utf8EncodeChar := by
  have hbytes : s.toUTF8 = (s.toList.flatMap String.utf8EncodeChar).toByteArray :=
    String.utf8Encode_toList.symm
  rw [encode, hbytes, ByteArray.toList, toList_loop, List.toList_data_toByteArray]
  rfl

/-! ## The bytes of a character -/

/-- What a first byte is owed goes by its number. -/
theorem first_eq (b : UInt8) :
    first b =
      if b.toNat < 0x80 then (.nothing, [some (Char.ofNat b.toNat)])
      else if b.toNat < 0xC2 then (.nothing, [none])
      else if b.toNat < 0xE0 then (.more 0x80 0xBF 1 (b.toNat % 32), [])
      else if b.toNat = 0xE0 then (.more 0xA0 0xBF 2 0, [])
      else if b.toNat = 0xED then (.more 0x80 0x9F 2 13, [])
      else if b.toNat < 0xF0 then (.more 0x80 0xBF 2 (b.toNat % 16), [])
      else if b.toNat = 0xF0 then (.more 0x90 0xBF 3 0, [])
      else if b.toNat < 0xF4 then (.more 0x80 0xBF 3 (b.toNat % 8), [])
      else if b.toNat = 0xF4 then (.more 0x80 0x8F 3 4, [])
      else (.nothing, [none]) := by
  have heq (k : UInt8) : b = k ↔ b.toNat = k.toNat := UInt8.toNat_inj.symm
  simp only [first, UInt8.lt_iff_toNat_lt, heq]
  rfl

/-- The first of two bytes. -/
theorem first_two {b : UInt8} (hlo : 0xC2 ≤ b.toNat) (hhi : b.toNat < 0xE0) :
    first b = (.more 0x80 0xBF 1 (b.toNat % 32), []) := by
  rw [first_eq, if_neg (by omega), if_neg (by omega), if_pos hhi]

/-- The first of three bytes: what the next one may be keeps the number from
being one of two bytes or a surrogate. -/
theorem first_three {b : UInt8} (hlo : 0xE0 ≤ b.toNat) (hhi : b.toNat < 0xF0) :
    ∃ lo hi, first b = (.more lo hi 2 (b.toNat % 16), []) ∧
      lo.toNat = (if b.toNat = 0xE0 then 0xA0 else 0x80) ∧
      hi.toNat = (if b.toNat = 0xED then 0x9F else 0xBF) := by
  rw [first_eq, if_neg (by omega), if_neg (by omega), if_neg (by omega)]
  by_cases hzero : b.toNat = 0xE0
  · exact ⟨0xA0, 0xBF, by rw [if_pos hzero, hzero], by rw [if_pos hzero]; rfl,
      by rw [if_neg (by omega)]; rfl⟩
  · by_cases hthirteen : b.toNat = 0xED
    · exact ⟨0x80, 0x9F, by rw [if_neg hzero, if_pos hthirteen, hthirteen],
        by rw [if_neg hzero]; rfl, by rw [if_pos hthirteen]; rfl⟩
    · exact ⟨0x80, 0xBF, by rw [if_neg hzero, if_neg hthirteen, if_pos hhi],
        by rw [if_neg hzero]; rfl, by rw [if_neg hthirteen]; rfl⟩

/-- The first of four bytes: what the next one may be keeps the number from
being one of three bytes or too great. -/
theorem first_four {b : UInt8} (hlo : 0xF0 ≤ b.toNat) (hhi : b.toNat ≤ 0xF4) :
    ∃ lo hi, first b = (.more lo hi 3 (b.toNat % 8), []) ∧
      lo.toNat = (if b.toNat = 0xF0 then 0x90 else 0x80) ∧
      hi.toNat = (if b.toNat = 0xF4 then 0x8F else 0xBF) := by
  rw [first_eq, if_neg (by omega), if_neg (by omega), if_neg (by omega), if_neg (by omega),
    if_neg (by omega), if_neg (by omega)]
  by_cases hzero : b.toNat = 0xF0
  · exact ⟨0x90, 0xBF, by rw [if_pos hzero, hzero], by rw [if_pos hzero]; rfl,
      by rw [if_neg (by omega)]; rfl⟩
  · by_cases hfour : b.toNat = 0xF4
    · exact ⟨0x80, 0x8F, by rw [if_neg hzero, if_neg (by omega), if_pos hfour, hfour],
        by rw [if_neg hzero]; rfl, by rw [if_pos hfour]; rfl⟩
    · exact ⟨0x80, 0xBF, by rw [if_neg hzero, if_pos (by omega)],
        by rw [if_neg hzero]; rfl, by rw [if_neg hfour]; rfl⟩

/-- A number below 256 as a byte. -/
theorem toNat_ofNat {n : Nat} (h : n < 256) : (UInt8.ofNat n).toNat = n :=
  UInt8.toNat_ofNat_of_lt' h

/-- A byte that goes on with a sequence holds six bits. -/
theorem toNat_continuation (n : Nat) :
    (UInt8.ofNat (n % 64 + 128)).toNat = n % 64 + 128 :=
  toNat_ofNat (by omega)

/-- And lies where such bytes do. -/
theorem continuation_bounds (n : Nat) :
    (0x80 : UInt8).toNat ≤ (UInt8.ofNat (n % 64 + 128)).toNat ∧
      (UInt8.ofNat (n % 64 + 128)).toNat ≤ (0xBF : UInt8).toNat := by
  rw [toNat_continuation]
  change 128 ≤ _ ∧ _ ≤ 191
  omega

namespace Decoder

variable (out : List Symbol) {v : Nat}

/-- Where nothing is owed, a byte is read as a first one. -/
theorem feed_nothing (b : UInt8) :
    feed ⟨.nothing, out⟩ b = ⟨(first b).1, (first b).2.reverse ++ out⟩ :=
  rfl

/-- A byte that leaves something owed and completes nothing. -/
theorem feed_more {lo hi b : UInt8} {left acc : Nat} (hlo : lo.toNat ≤ b.toNat)
    (hhi : b.toNat ≤ hi.toNat) :
    feed ⟨.more lo hi (left + 2) acc, out⟩ b =
      ⟨.more 0x80 0xBF (left + 1) (acc * 64 + b.toNat % 64), out⟩ := by
  rw [feed, step, if_pos ⟨UInt8.le_iff_toNat_le.mpr hlo, UInt8.le_iff_toNat_le.mpr hhi⟩]
  rfl

/-- The last byte that is owed completes a character. -/
theorem feed_last {lo hi b : UInt8} {acc : Nat} (hlo : lo.toNat ≤ b.toNat)
    (hhi : b.toNat ≤ hi.toNat) :
    feed ⟨.more lo hi 1 acc, out⟩ b =
      ⟨.nothing, some (Char.ofNat (acc * 64 + b.toNat % 64)) :: out⟩ := by
  rw [feed, step, if_pos ⟨UInt8.le_iff_toNat_le.mpr hlo, UInt8.le_iff_toNat_le.mpr hhi⟩]
  rfl

theorem run_cons (d : Decoder) (b : UInt8) (bytes : Bytes) :
    d.run (b :: bytes) = (d.feed b).run bytes :=
  rfl

theorem run_one (h : v < 0x80) :
    run ⟨.nothing, out⟩ [UInt8.ofNat v] = ⟨.nothing, some (Char.ofNat v) :: out⟩ := by
  have hbyte : (UInt8.ofNat v).toNat = v := toNat_ofNat (by omega)
  rw [run_cons, feed_nothing, first_eq, hbyte, if_pos h]
  rfl

theorem run_two (hlo : 0x80 ≤ v) (hhi : v < 0x800) :
    run ⟨.nothing, out⟩ [UInt8.ofNat (v / 64 % 32 + 192), UInt8.ofNat (v % 64 + 128)] =
      ⟨.nothing, some (Char.ofNat v) :: out⟩ := by
  have hlead : (UInt8.ofNat (v / 64 % 32 + 192)).toNat = v / 64 + 192 := by
    rw [toNat_ofNat (by omega)]
    omega
  have hlast := toNat_continuation v
  have hnumber : (v / 64 + 192) % 32 * 64 + (v % 64 + 128) % 64 = v := by omega
  rw [run_cons, feed_nothing, first_two (by omega) (by omega), run_cons, hlead]
  change (feed ⟨.more 0x80 0xBF 1 _, out⟩ _).run [] = _
  rw [feed_last out (continuation_bounds v).1 (continuation_bounds v).2, hlast, hnumber]
  rfl

theorem run_three (hlo : 0x800 ≤ v) (hhi : v < 0x10000) (hvalid : v < 0xD800 ∨ 0xDFFF < v) :
    run ⟨.nothing, out⟩ [UInt8.ofNat (v / 4096 % 16 + 224), UInt8.ofNat (v / 64 % 64 + 128),
        UInt8.ofNat (v % 64 + 128)] =
      ⟨.nothing, some (Char.ofNat v) :: out⟩ := by
  have hlead : (UInt8.ofNat (v / 4096 % 16 + 224)).toNat = v / 4096 + 224 := by
    rw [toNat_ofNat (by omega)]
    omega
  have hmid := toNat_continuation (v / 64)
  have hlast := toNat_continuation v
  obtain ⟨lo, hi, hfirst, hlow, hhigh⟩ :=
    first_three (b := UInt8.ofNat (v / 4096 % 16 + 224)) (by omega) (by omega)
  have hnumber : ((v / 4096 + 224) % 16 * 64 + (v / 64 % 64 + 128) % 64) * 64 +
      (v % 64 + 128) % 64 = v := by omega
  rw [run_cons, feed_nothing, hfirst, run_cons, hlead]
  change (feed ⟨.more lo hi 2 _, out⟩ _).run _ = _
  rw [feed_more out (by rw [hlow, hmid]; split <;> omega) (by rw [hhigh, hmid]; split <;> omega),
    run_cons, feed_last out (continuation_bounds v).1 (continuation_bounds v).2, hmid, hlast,
    hnumber]
  rfl

theorem run_four (hlo : 0x10000 ≤ v) (hhi : v < 0x110000) :
    run ⟨.nothing, out⟩ [UInt8.ofNat (v / 262144 % 8 + 240), UInt8.ofNat (v / 4096 % 64 + 128),
        UInt8.ofNat (v / 64 % 64 + 128), UInt8.ofNat (v % 64 + 128)] =
      ⟨.nothing, some (Char.ofNat v) :: out⟩ := by
  have hlead : (UInt8.ofNat (v / 262144 % 8 + 240)).toNat = v / 262144 + 240 := by
    rw [toNat_ofNat (by omega)]
    omega
  have hnext := toNat_continuation (v / 4096)
  have hmid := toNat_continuation (v / 64)
  have hlast := toNat_continuation v
  obtain ⟨lo, hi, hfirst, hlow, hhigh⟩ :=
    first_four (b := UInt8.ofNat (v / 262144 % 8 + 240)) (by omega) (by omega)
  have hnumber : (((v / 262144 + 240) % 8 * 64 + (v / 4096 % 64 + 128) % 64) * 64 +
      (v / 64 % 64 + 128) % 64) * 64 + (v % 64 + 128) % 64 = v := by omega
  rw [run_cons, feed_nothing, hfirst, run_cons, hlead]
  change (feed ⟨.more lo hi 3 _, out⟩ _).run _ = _
  rw [feed_more out (by rw [hlow, hnext]; split <;> omega) (by rw [hhigh, hnext]; split <;> omega),
    run_cons, feed_more out (continuation_bounds _).1 (continuation_bounds _).2,
    run_cons, feed_last out (continuation_bounds v).1 (continuation_bounds v).2, hnext, hmid,
    hlast, hnumber]
  rfl

/-- **The bytes of a character are read as that character.** -/
theorem run_encodedChar (c : Char) :
    run ⟨.nothing, out⟩ (String.utf8EncodeChar c) = ⟨.nothing, some c :: out⟩ := by
  have hvalid : c.val.toNat < 0xD800 ∨ 0xDFFF < c.val.toNat ∧ c.val.toNat < 0x110000 := c.valid
  have hchar : Char.ofNat c.val.toNat = c := Char.ofNat_toNat c
  rw [String.utf8EncodeChar]
  generalize c.val.toNat = v at hvalid hchar
  subst hchar
  -- one case for each length
  split
  · exact run_one out (by omega)
  · split
    · exact run_two out (by omega) (by omega)
    · split
      · exact run_three out (by omega) (by omega) (by omega)
      · exact run_four out (by omega) (by omega)

/-- The bytes of characters in turn. -/
theorem run_encodedChars (cs : List Char) :
    run ⟨.nothing, out⟩ (cs.flatMap String.utf8EncodeChar) =
      ⟨.nothing, (cs.map some).reverse ++ out⟩ := by
  induction cs generalizing out with
  | nil => rfl
  | cons c cs ih =>
    rw [List.flatMap_cons, run_append, run_encodedChar, ih, List.map_cons, List.reverse_cons,
      List.append_assoc, List.singleton_append]

end Decoder

/-- **The bytes of a text are read as its characters.** -/
theorem symbols_encode (s : String) : symbols (encode s) = s.toList.map some := by
  rw [symbols, encode_eq, Decoder.start, Decoder.run_encodedChars, Decoder.symbols,
    List.append_nil, List.reverse_reverse]

end Utf8

/-- The document of a text is the document of its bytes. -/
theorem Doc.ofBytes?_encode (s : String) : ofBytes? (Utf8.encode s) = ofString? s := by
  rw [ofBytes?, Utf8.symbols_encode, ofString?]

end Turnstile
