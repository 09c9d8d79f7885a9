import Turnstile.Proofs.Output
/-!
# Captured text — where the cut falls in a character

The cap cuts bytes, and a text has characters. The bytes within the cap
are those of the characters that fit and of a start of the next one
(`take_encode`), and such a start is decoded as one stand-in
(`symbols_append_start`): a decoder accounts for every byte it has read, so it
still owes for these. The stand-in takes three bytes. Where fewer bytes of
the character were let through it does not fit and is cut away again, and
the text is the one that was meant; where three of four were, it stays.
That is the only way in which captured text and capped text differ
(`capture_of_text`).
-/

namespace Turnstile

namespace Text

/-- Taking characters stops at the first that does not fit. -/
theorem takeBytes_go_append {left : Nat} {fit rest : List Char} (taken : List Char)
    (hfits : size fit ≤ left) (hnext : ∀ c ∈ rest.head?, left < size fit + c.utf8Size) :
    takeBytes.go left taken (fit ++ rest) = taken.reverse ++ fit := by
  induction fit generalizing left taken with
  | nil =>
    rw [List.nil_append, List.append_nil]
    cases rest with
    | nil => rw [takeBytes.go]
    | cons c rest =>
      have htoo := hnext c rfl
      rw [size, Nat.zero_add] at htoo
      rw [takeBytes.go, if_neg (Nat.not_le.mpr htoo)]
  | cons c fit ih =>
    rw [size_cons] at hfits
    rw [List.cons_append, takeBytes.go, if_pos (by omega), ih (c :: taken) (by omega)]
    · rw [List.reverse_cons, List.append_assoc, List.singleton_append]
    · intro next hmem
      have htoo := hnext next hmem
      rw [size_cons] at htoo
      omega

/-- **What is kept is all that fits**, told by the character after it. -/
theorem truncate_of_rest {s : String} {max : Nat} {fit rest : List Char}
    (hs : s.toList = fit ++ rest) (hfits : size fit ≤ max)
    (hnext : ∀ c ∈ rest.head?, max < size fit + c.utf8Size) :
    truncate s max = String.ofList fit := by
  rw [truncate]
  split
  · rename_i hle
    cases rest with
    | nil => rw [← String.ofList_toList (s := s), hs, List.append_nil]
    | cons c rest =>
      have htoo := hnext c rfl
      rw [utf8ByteSize_eq, hs, size_append, size_cons] at hle
      omega
  · rw [takeBytes, hs, takeBytes_go_append [] hfits hnext, List.reverse_nil, List.nil_append]

/-- The cap lets through three of the four bytes of a character. -/
def Severs (s : String) (max : Nat) : Prop :=
  ∃ fit c rest, s.toList = fit ++ c :: rest ∧ c.utf8Size = 4 ∧ max = size fit + 3

end Text

namespace Utf8

/-- **The first bytes of a text**: those of the characters that fit, and
the first ones of the next character. -/
theorem take_encode {s : String} {max : Nat} {fit rest : List Char} {c : Char}
    (hs : s.toList = fit ++ c :: rest) (hfits : Text.size fit ≤ max)
    (hnext : max < Text.size fit + c.utf8Size) :
    (encode s).take max =
      bytesOf fit ++ (String.utf8EncodeChar c).take (max - Text.size fit) := by
  have hlength : (String.utf8EncodeChar c).length = c.utf8Size := String.length_utf8EncodeChar c
  rw [encode_eq, hs, List.flatMap_append, List.flatMap_cons, List.take_append,
    List.take_of_length_le (by rw [length_bytesOf]; exact hfits), length_bytesOf,
    List.take_append_of_le_length (by omega)]

/-- A decoder keeps what it has produced. -/
theorem Decoder.exists_produced_run (d : Decoder) (bytes : Bytes) :
    ∃ more, (d.run bytes).produced = more ++ d.produced := by
  induction bytes generalizing d with
  | nil => exact ⟨[], rfl⟩
  | cons b bytes ih =>
    obtain ⟨more, hmore⟩ := ih (d.feed b)
    refine ⟨more ++ (step d.owed b).2.reverse, ?_⟩
    rw [run_cons, hmore, List.append_assoc]
    rfl

theorem width_map_some (cs : List Char) : width (cs.map some) = Text.size cs := by
  rw [width, List.map_map]
  exact congrArg Text.size (List.map_id cs)

theorem all_isSome_map_some (cs : List Char) : (cs.map some).reverse.all Option.isSome = true := by
  rw [List.all_reverse, List.all_map]
  exact List.all_eq_true.mpr fun _ _ => rfl

/-- **Within a character** a decoder has produced those before it. The
character ended would account for more bytes than were read. -/
theorem produced_append_start (cs : List Char) {c : Char} {n : Nat} (hlt : n < c.utf8Size) :
    (Decoder.start.run (bytesOf cs ++ (String.utf8EncodeChar c).take n)).produced =
      (cs.map some).reverse := by
  have hread : Decoder.start.run (bytesOf cs) = ⟨.nothing, (cs.map some).reverse⟩ := by
    rw [Decoder.start, Decoder.run_encodedChars, List.append_nil]
  -- what was produced so far is a part of what is produced in the end
  obtain ⟨more, hmore⟩ := Decoder.exists_produced_run (Decoder.start.run (bytesOf cs))
    ((String.utf8EncodeChar c).take n)
  obtain ⟨later, hlater⟩ := Decoder.exists_produced_run
    ((Decoder.start.run (bytesOf cs)).run ((String.utf8EncodeChar c).take n))
    ((String.utf8EncodeChar c).drop n)
  rw [← Decoder.run_append, List.take_append_drop, hmore, hread, Decoder.run_encodedChar,
    ← List.append_assoc] at hlater
  have honly : later ++ more = [some c] := (List.append_cancel_right hlater).symm
  rw [← Decoder.run_append, hread] at hmore
  rcases List.append_eq_singleton_iff.mp honly with ⟨-, rfl⟩ | ⟨-, rfl⟩
  · obtain ⟨left, -, -, haccounts⟩ :=
      accounts_run (bytesOf cs ++ (String.utf8EncodeChar c).take n)
    dsimp only at haccounts
    rw [hmore, List.singleton_append, List.all_cons, all_isSome_map_some] at haccounts
    have hbytes := haccounts rfl
    have hwidth : width (some c :: (cs.map some).reverse) = c.utf8Size + Text.size cs := by
      rw [← List.singleton_append, width_append, width_reverse, width_map_some]
      rfl
    dsimp only at hbytes
    rw [hwidth, List.length_append, length_bytesOf, List.length_take] at hbytes
    omega
  · exact hmore

/-- **A start of a character is owed for**, so it comes to one stand-in. -/
theorem symbols_append_start (cs : List Char) {c : Char} {n : Nat} (hpos : 0 < n)
    (hlt : n < c.utf8Size) :
    symbols (bytesOf cs ++ (String.utf8EncodeChar c).take n) = cs.map some ++ [none] := by
  have hproduced := produced_append_start cs hlt
  obtain ⟨left, howes, -, haccounts⟩ :=
    accounts_run (bytesOf cs ++ (String.utf8EncodeChar c).take n)
  dsimp only at howes haccounts
  have hbytes := haccounts (by rw [hproduced, all_isSome_map_some])
  rw [hproduced, width_reverse, width_map_some, List.length_append, length_bytesOf,
    List.length_take, String.length_utf8EncodeChar] at hbytes
  rw [symbols, Decoder.symbols]
  cases howed : (Decoder.start.run (bytesOf cs ++ (String.utf8EncodeChar c).take n)).owed with
  | nothing =>
    -- with nothing owed the bytes of the start would not be accounted for
    rw [howed] at howes
    cases howes
    omega
  | more lo hi due acc =>
    dsimp only
    rw [hproduced, List.reverse_cons, List.reverse_reverse]

/-- **A cut text decoded**: the characters that fit, and a stand-in where
the cap lets a part of the next one through. -/
theorem decodeLossy_take_encode {s : String} {max : Nat} {fit rest : List Char} {c : Char}
    (hs : s.toList = fit ++ c :: rest) (hfits : Text.size fit ≤ max)
    (hnext : max < Text.size fit + c.utf8Size) :
    decodeLossy ((encode s).take max) =
      String.ofList (fit ++ if max = Text.size fit then [] else [replacement]) := by
  have hread (cs : List Char) : (cs.map some).map (fun s => Option.getD s replacement) = cs := by
    rw [List.map_map]
    exact List.map_id cs
  rw [decodeLossy, take_encode hs hfits hnext]
  refine congrArg String.ofList ?_
  split
  · rename_i hfull
    have hsymbols : symbols (bytesOf fit) = fit.map some := by
      rw [← String.toList_ofList (l := fit), ← symbols_encode, encode_eq]
    rw [hfull, Nat.sub_self, List.take_zero, List.append_nil, hsymbols, hread, List.append_nil]
  · rename_i hpart
    rw [symbols_append_start fit (by omega) (by omega), List.map_append, hread]
    rfl

end Utf8

namespace Captured

open Text (truncate truncationMarker capWithMarker Severs)

variable {s : String} {max : Nat}

/-- A text that is longer than the cap has a first character that does not
fit. -/
theorem exists_next (h : max < s.utf8ByteSize) :
    ∃ fit c rest, s.toList = fit ++ c :: rest ∧ Text.size fit ≤ max ∧
      max < Text.size fit + c.utf8Size ∧ truncate s max = String.ofList fit := by
  obtain ⟨rest, hrest, hfits, hnext⟩ := Text.exists_rest s max
  rw [Text.utf8ByteSize_eq] at hfits hnext
  cases rest with
  | nil =>
    rw [Text.utf8ByteSize_eq, hrest, List.append_nil] at h
    omega
  | cons c rest =>
    exact ⟨_, c, rest, hrest, hfits, hnext c rfl, (String.ofList_toList).symm⟩

/-- A text within the cap is captured whole. -/
theorem text_of_le (h : s.utf8ByteSize ≤ max) :
    truncate (Utf8.decodeLossy ((Utf8.encode s).take max)) max = s := by
  have hread : Utf8.decodeLossy (Utf8.encode s) = s := by
    have hsymbols : Utf8.decode? (Utf8.encode s) = some s := by
      rw [Utf8.decode?, Utf8.symbols_encode, Utf8.textOf?]
      simp
    exact (Utf8.decodeLossy_of_decode? hsymbols).1
  rw [List.take_of_length_le (by rw [Utf8.length_encode]; exact h), hread, Text.truncate_of_le h]

/-- Where three of the four bytes of a character are let through, the
stand-in for them fits. -/
theorem text_of_severs (h : Severs s max) :
    max < s.utf8ByteSize ∧
      truncate (Utf8.decodeLossy ((Utf8.encode s).take max)) max = truncate s max ++ "\uFFFD" := by
  obtain ⟨fit, c, rest, hs, hfour, rfl⟩ := h
  have hfits : Text.size fit ≤ Text.size fit + 3 := Nat.le_add_right _ 3
  have hnext : Text.size fit + 3 < Text.size fit + c.utf8Size := by omega
  have hsize : (String.ofList (fit ++ [Utf8.replacement])).utf8ByteSize = Text.size fit + 3 := by
    rw [Text.utf8ByteSize_ofList, Text.size_append]
    rfl
  refine ⟨?_, ?_⟩
  · rw [Text.utf8ByteSize_eq, hs, Text.size_append, Text.size_cons]
    omega
  · rw [Utf8.decodeLossy_take_encode hs hfits hnext, if_neg (by omega),
      Text.truncate_of_le hsize.le,
      Text.truncate_of_rest hs hfits fun next hmem => by cases hmem; exact hnext,
      String.ofList_append]
    rfl

/-- Where fewer are, it does not, and what fits is what fits of the text. -/
theorem text_of_not_severs (hmore : max < s.utf8ByteSize) (h : ¬ Severs s max) :
    truncate (Utf8.decodeLossy ((Utf8.encode s).take max)) max = truncate s max := by
  obtain ⟨fit, c, rest, hs, hfits, hnext, hkept⟩ := exists_next hmore
  rw [Utf8.decodeLossy_take_encode hs hfits hnext, hkept]
  split
  · rw [List.append_nil]
    exact Text.truncate_of_le (by rw [Text.utf8ByteSize_ofList]; exact hfits)
  · rename_i hpart
    -- the stand-in is what comes next, and it takes three bytes
    refine Text.truncate_of_rest String.toList_ofList hfits fun next hmem => ?_
    cases hmem
    have hchar := c.utf8Size_le_four
    have hthree : max ≠ Text.size fit + 3 := fun hmax =>
      h ⟨fit, c, rest, hs, by omega, hmax⟩
    change max < Text.size fit + 3
    omega

/-- **Captured text is capped text**, in whatever pieces it is read, unless
the cap lets through three of the four bytes of a character; and then
there is a stand-in for these in it. A capped text is all of the text if
that is within the cap, and else the longest start that is, and the
mark. -/
theorem capture_of_text {stopAt : Option Nat} {reads : List PipeRead}
    (hread : heardBytes stopAt reads = Utf8.encode s) (max : Nat) :
    (¬ Severs s max → (capture max stopAt reads).text = capWithMarker s max) ∧
    (Severs s max → max < s.utf8ByteSize ∧
      (capture max stopAt reads).text = truncate s max ++ "\uFFFD" ++ truncationMarker) ∧
    (capWithMarker s max =
      if s.utf8ByteSize ≤ max then s else truncate s max ++ truncationMarker) ∧
    (truncate s max).toList <+: s.toList ∧ (truncate s max).utf8ByteSize ≤ max ∧
    ∀ start : String, start.toList <+: s.toList → start.utf8ByteSize ≤ max →
      start.utf8ByteSize ≤ (truncate s max).utf8ByteSize := by
  rw [text_capture, hread, Utf8.length_encode]
  refine ⟨fun h => ?_, fun h => ?_, rfl, Text.truncate_prefix s max, Text.truncate_le s max,
    fun start hstart hfits => Text.truncate_longest hstart hfits⟩
  · rw [capWithMarker]
    split
    · rename_i hle
      rw [text_of_le hle, mark, if_neg (by simpa using hle), String.append_empty]
    · rename_i hmore
      rw [text_of_not_severs (Nat.not_le.mp hmore) h, mark, if_pos (by simpa using hmore)]
  · obtain ⟨hmore, htext⟩ := text_of_severs h
    rw [htext, mark, if_pos (decide_eq_true hmore)]
    exact ⟨hmore, rfl⟩

/-- Two characters of four bytes under a cap of six: two bytes of the second
one are let through, in three reads and an interrupted one, and nothing of
it is shown. -/
theorem capture_of_text_halved :
    heardBytes none [.data [0xF0, 0x9F], .interrupted, .data [0x98, 0x80, 0xF0],
      .data [0x9F, 0x98, 0x81]] = Utf8.encode "😀😁" ∧
    (capture 6 none [.data [0xF0, 0x9F], .interrupted, .data [0x98, 0x80, 0xF0],
      .data [0x9F, 0x98, 0x81]]).text = "😀" ++ truncationMarker := by
  have hread : heardBytes none [.data [0xF0, 0x9F], .interrupted, .data [0x98, 0x80, 0xF0],
      .data [0x9F, 0x98, 0x81]] = Utf8.encode "😀😁" := by decide +kernel
  have hnot : ¬ Severs "😀😁" 6 := by
    rintro ⟨fit, c, rest, hs, -, hmax⟩
    have hchars : "😀😁".toList = ['😀', '😁'] := by decide
    rw [hchars] at hs
    cases fit with
    | nil => exact absurd hmax (by decide)
    | cons d fit =>
      have hsize : d.utf8Size = 4 := by
        rw [← (List.cons.inj hs).1]
        decide
      rw [Text.size_cons, hsize] at hmax
      omega
  refine ⟨hread, ?_⟩
  rw [(capture_of_text hread 6).1 hnot]
  decide +kernel

/-- **A stand-in is shown where a text is cut** after three of the four
bytes of a character, which capping the text leaves out. -/
theorem capture_ne_capWithMarker :
    heardBytes none [.data (Utf8.encode "😀")] = Utf8.encode "😀" ∧
    (capture 3 none [.data (Utf8.encode "😀")]).text = "\uFFFD" ++ truncationMarker ∧
    capWithMarker "😀" 3 = truncationMarker := by
  decide +kernel

end Captured

end Turnstile
