import Turnstile.Proofs.Text.Utf8
import Mathlib.Data.List.Induction
/-!
# UTF-8 — how long bytes are once decoded

A decoder accounts for every byte it reads (`accounts_step`): those of a
character come out as as many, and those of an ill-formed stretch, three at
the most, as the three of its stand-in. What it owes in the middle of a
sequence only lets a byte through that makes the number one of a character
of that length (`Owes`). So text is never shorter than the bytes it was
decoded from (`length_le_decodeLossy`), and as long where these are
well-formed (`decodeLossy_of_decode?`).
-/

namespace Turnstile

namespace Text

/-- How many bytes characters take. -/
def size : List Char → Nat
  | [] => 0
  | c :: cs => c.utf8Size + size cs

theorem size_cons (c : Char) (cs : List Char) : size (c :: cs) = c.utf8Size + size cs := rfl

theorem size_append (cs ds : List Char) : size (cs ++ ds) = size cs + size ds := by
  induction cs with
  | nil => rw [List.nil_append, size, Nat.zero_add]
  | cons c cs ih => rw [List.cons_append, size_cons, size_cons, ih, Nat.add_assoc]

theorem size_reverse (cs : List Char) : size cs.reverse = size cs := by
  induction cs with
  | nil => rfl
  | cons c cs ih =>
    rw [List.reverse_cons, size_append, ih, size_cons, size_cons, size, Nat.add_zero, Nat.add_comm]

theorem utf8ByteSize_ofList (cs : List Char) : (String.ofList cs).utf8ByteSize = size cs := by
  induction cs with
  | nil => simp [size]
  | cons c cs ih =>
    rw [size_cons, ← ih, String.ofList_cons, String.utf8ByteSize_append, String.utf8ByteSize_singleton]

theorem utf8ByteSize_eq (s : String) : s.utf8ByteSize = size s.toList := by
  rw [← utf8ByteSize_ofList, String.ofList_toList]

end Text

namespace Utf8

/-! ## Characters and symbols -/

/-- The bytes of characters. -/
abbrev bytesOf (cs : List Char) : Bytes := cs.flatMap String.utf8EncodeChar

theorem length_bytesOf (cs : List Char) : (bytesOf cs).length = Text.size cs := by
  induction cs with
  | nil => rfl
  | cons c cs ih =>
    rw [bytesOf, List.flatMap_cons, List.length_append, String.length_utf8EncodeChar,
      Text.size_cons]
    exact congrArg _ ih

theorem length_encode (s : String) : (encode s).length = s.utf8ByteSize := by
  rw [encode_eq, length_bytesOf, Text.utf8ByteSize_eq]

theorem utf8Size_ofNat {v : Nat} (hvalid : v < 0xD800 ∨ 0xDFFF < v ∧ v < 0x110000) :
    (Char.ofNat v).utf8Size =
      if v < 0x80 then 1 else if v < 0x800 then 2 else if v < 0x10000 then 3 else 4 := by
  have hv : (Char.ofNat v).val.toNat = v := by
    rw [Char.ofNat, dif_pos hvalid]
    rfl
  rw [← String.length_utf8EncodeChar, String.utf8EncodeChar, hv]
  -- one case for each length
  by_cases h1 : v ≤ 0x7F
  · rw [if_pos h1, if_pos (show v < 0x80 by omega)]
    rfl
  rw [if_neg h1, if_neg (show ¬ v < 0x80 by omega)]
  by_cases h2 : v ≤ 0x7FF
  · rw [if_pos h2, if_pos (show v < 0x800 by omega)]
    rfl
  rw [if_neg h2, if_neg (show ¬ v < 0x800 by omega)]
  by_cases h3 : v ≤ 0xFFFF
  · rw [if_pos h3, if_pos (show v < 0x10000 by omega)]
    rfl
  rw [if_neg h3, if_neg (show ¬ v < 0x10000 by omega)]
  rfl

/-- The bytes that symbols take once decoded. -/
def width (symbols : List Symbol) : Nat := Text.size (symbols.map fun s => s.getD replacement)

/-- **What is owed after bytes of a sequence**, as many as are told: the
next byte may only be such that the number becomes that of a character
which takes all of the sequence. -/
inductive Owes : Owed → Nat → Prop
  | nothing : Owes .nothing 0
  | second {acc : Nat} (hlo : 2 ≤ acc) (hhi : acc < 0x20) : Owes (.more 0x80 0xBF 1 acc) 1
  | middle {lo hi : UInt8} {acc : Nat} (hacc : acc < 0x10)
      (hlo : (if acc = 0 then 0xA0 else 0x80) ≤ lo.toNat)
      (hhi : hi.toNat ≤ if acc = 13 then 0x9F else 0xBF) : Owes (.more lo hi 2 acc) 1
  | third {acc : Nat} (hlo : 0x20 ≤ acc) (hhi : acc < 0x400) (hvalid : acc < 0x360 ∨ 0x37F < acc) :
      Owes (.more 0x80 0xBF 1 acc) 2
  | early {lo hi : UInt8} {acc : Nat} (hacc : acc < 5)
      (hlo : (if acc = 0 then 0x90 else 0x80) ≤ lo.toNat)
      (hhi : hi.toNat ≤ if acc = 4 then 0x8F else 0xBF) : Owes (.more lo hi 3 acc) 1
  | late {acc : Nat} (hlo : 0x10 ≤ acc) (hhi : acc < 0x110) : Owes (.more 0x80 0xBF 2 acc) 2
  | fourth {acc : Nat} (hlo : 0x400 ≤ acc) (hhi : acc < 0x4400) : Owes (.more 0x80 0xBF 1 acc) 3

theorem Owes.le {owed : Owed} {n : Nat} (h : Owes owed n) : n ≤ 3 := by
  cases h <;> omega

/-- What a byte leaves owed, and the symbols with it, account for `n`
bytes: for more only where something is ill-formed. -/
def Accounts (n : Nat) (after : Owed × List Symbol) : Prop :=
  ∃ left, Owes after.1 left ∧ n ≤ left + width after.2 ∧
    (after.2.all Option.isSome = true → left + width after.2 = n)

theorem accounts_invalid {n : Nat} (hn : n ≤ 3) : Accounts n (.nothing, [none]) :=
  ⟨0, .nothing, by change n ≤ 0 + 3; omega, fun h => nomatch h⟩

theorem accounts_char {n v : Nat} (hvalid : v < 0xD800 ∨ 0xDFFF < v ∧ v < 0x110000)
    (hn : n = if v < 0x80 then 1 else if v < 0x800 then 2 else if v < 0x10000 then 3 else 4) :
    Accounts n (.nothing, [some (Char.ofNat v)]) := by
  have hwidth : width [some (Char.ofNat v)] = n := by
    rw [hn, ← utf8Size_ofNat hvalid, width, List.map_singleton, Option.getD_some, Text.size_cons]
    rfl
  exact ⟨0, .nothing, by rw [hwidth]; omega, fun _ => by rw [hwidth]; omega⟩

theorem accounts_more {owed : Owed} {n : Nat} (h : Owes owed n) : Accounts n (owed, []) :=
  ⟨n, h, Nat.le_refl n, fun _ => rfl⟩

theorem accounts_first (b : UInt8) : Accounts 1 (first b) := by
  have hbyte := b.toNat_lt
  rw [first_eq]
  split
  · exact accounts_char (by omega) (by split <;> omega)
  · split
    · exact accounts_invalid (by omega)
    · split
      · exact accounts_more (.second (by omega) (by omega))
      · split
        · exact accounts_more (.middle (by decide) (by decide) (by decide))
        · split
          · exact accounts_more (.middle (by decide) (by decide) (by decide))
          · split
            · refine accounts_more (.middle (by omega) ?_ ?_)
              · rw [if_neg (by omega)]; decide
              · rw [if_neg (by omega)]; decide
            · split
              · exact accounts_more (.early (by decide) (by decide) (by decide))
              · split
                · refine accounts_more (.early (by omega) ?_ ?_)
                  · rw [if_neg (by omega)]; decide
                  · rw [if_neg (by omega)]; decide
                · split
                  · exact accounts_more (.early (by decide) (by decide) (by decide))
                  · exact accounts_invalid (by omega)

/-- What is ill-formed takes three bytes decoded, and was no more. -/
theorem Accounts.invalid {n : Nat} {after : Owed × List Symbol} (hn : n ≤ 3)
    (h : Accounts 1 after) : Accounts (n + 1) (after.1, none :: after.2) := by
  obtain ⟨left, howes, hle, -⟩ := h
  have hwidth : width (none :: after.2) = 3 + width after.2 := rfl
  exact ⟨left, howes, by rw [hwidth]; omega, fun h => nomatch h⟩

/-- A byte of a sequence, in range or not. -/
theorem accounts_more_step {lo hi : UInt8} {left acc n : Nat} (hn : n ≤ 3) (b : UInt8)
    (hnext : lo.toNat ≤ b.toNat → b.toNat ≤ hi.toNat →
      Accounts (n + 1)
        (match left with
        | 0 | 1 => (.nothing, [some (Char.ofNat (acc * 64 + b.toNat % 64))])
        | left + 2 => (.more 0x80 0xBF (left + 1) (acc * 64 + b.toNat % 64), []))) :
    Accounts (n + 1) (step (.more lo hi left acc) b) := by
  rw [step]
  split
  · rename_i hb
    exact hnext (UInt8.le_iff_toNat_le.mp hb.1) (UInt8.le_iff_toNat_le.mp hb.2)
  · exact (accounts_first b).invalid hn

/-- **Every byte is accounted for.** -/
theorem accounts_step {owed : Owed} {n : Nat} (h : Owes owed n) (b : UInt8) :
    Accounts (n + 1) (step owed b) := by
  have hlow : (0x80 : UInt8).toNat = 0x80 := rfl
  have hhigh : (0xBF : UInt8).toNat = 0xBF := rfl
  cases h with
  | nothing => exact accounts_first b
  | second hlo hhi =>
    refine accounts_more_step (by omega) b fun hb hb' => accounts_char (by omega) ?_
    rw [if_neg (by omega), if_pos (by omega)]
  | third hlo hhi hvalid =>
    refine accounts_more_step (by omega) b fun hb hb' => accounts_char (by omega) ?_
    rw [if_neg (by omega), if_neg (by omega), if_pos (by omega)]
  | fourth hlo hhi =>
    refine accounts_more_step (by omega) b fun hb hb' => accounts_char (by omega) ?_
    rw [if_neg (by omega), if_neg (by omega), if_neg (by omega)]
  | middle hacc hlo hhi =>
    refine accounts_more_step (by omega) b fun hb hb' => accounts_more ?_
    split at hlo <;> split at hhi <;> exact .third (by omega) (by omega) (by omega)
  | early hacc hlo hhi =>
    refine accounts_more_step (by omega) b fun hb hb' => accounts_more ?_
    split at hlo <;> split at hhi <;> exact .late (by omega) (by omega)
  | late hlo hhi =>
    exact accounts_more_step (by omega) b fun hb hb' => accounts_more (.fourth (by omega) (by omega))
theorem width_append (xs ys : List Symbol) : width (xs ++ ys) = width xs + width ys := by
  rw [width, List.map_append, Text.size_append, width, width]

theorem width_reverse (xs : List Symbol) : width xs.reverse = width xs := by
  rw [width, width, List.map_reverse, Text.size_reverse]

/-- A decoder accounts for all bytes it has read. -/
theorem accounts_run (bytes : Bytes) :
    Accounts bytes.length ((Decoder.start.run bytes).owed, (Decoder.start.run bytes).produced) := by
  induction bytes using List.reverseRecOn with
  | nil => exact accounts_more .nothing
  | append_singleton bytes b ih =>
    obtain ⟨n, howes, hle, heq⟩ := ih
    obtain ⟨left, howes', hle', heq'⟩ := accounts_step howes b
    have hproduced : (Decoder.start.run (bytes ++ [b])).produced =
        (step (Decoder.start.run bytes).owed b).2.reverse ++ (Decoder.start.run bytes).produced := by
      rw [Decoder.run_append]
      rfl
    have howed : (Decoder.start.run (bytes ++ [b])).owed =
        (step (Decoder.start.run bytes).owed b).1 := by
      rw [Decoder.run_append]
      rfl
    rw [hproduced, howed]
    refine ⟨left, howes', ?_, fun hall => ?_⟩
    · simp only [width_append, width_reverse, List.length_append, List.length_singleton] at *
      omega
    · rw [List.all_append, List.all_reverse, Bool.and_eq_true] at hall
      have h := heq hall.2
      have h' := heq' hall.1
      simp only [width_append, width_reverse, List.length_append, List.length_singleton] at *
      omega

/-- **So do the symbols of bytes.** -/
theorem accounts_symbols (bytes : Bytes) : Accounts bytes.length (.nothing, symbols bytes) := by
  obtain ⟨left, howes, hle, heq⟩ := accounts_run bytes
  rw [symbols, Decoder.symbols]
  cases howed : (Decoder.start.run bytes).owed with
  | nothing =>
    rw [howed] at howes
    cases howes
    refine ⟨0, .nothing, ?_, fun hall => ?_⟩
    · rw [width_reverse]
      exact hle
    · rw [width_reverse]
      exact heq (by rwa [List.all_reverse] at hall)
  | more lo hi due acc =>
    rw [howed] at howes
    have hleft := howes.le
    refine ⟨0, .nothing, ?_, fun hall => ?_⟩
    · have hwidth : width (none :: (Decoder.start.run bytes).produced) =
          3 + width (Decoder.start.run bytes).produced := rfl
      rw [width_reverse, hwidth]
      simp only at hle
      omega
    · rw [List.all_reverse] at hall
      cases hall

theorem utf8ByteSize_decodeLossy (bytes : Bytes) :
    (decodeLossy bytes).utf8ByteSize = width (symbols bytes) :=
  Text.utf8ByteSize_ofList _

/-- **Decoding never makes bytes fewer.** -/
theorem length_le_decodeLossy (bytes : Bytes) :
    bytes.length ≤ (decodeLossy bytes).utf8ByteSize := by
  obtain ⟨left, howes, hle, -⟩ := accounts_symbols bytes
  cases howes
  rw [utf8ByteSize_decodeLossy]
  simpa using hle

/-- **Bytes that are well-formed are as many once decoded**, and nothing of
them is replaced. -/
theorem decodeLossy_of_decode? {bytes : Bytes} {text : String} (h : decode? bytes = some text) :
    decodeLossy bytes = text ∧ text.utf8ByteSize = bytes.length := by
  rw [decode?, textOf?] at h
  split at h
  · rename_i hall
    have htext : decodeLossy bytes = text := by
      rw [← Option.some.inj h, decodeLossy]
      refine congrArg String.ofList ?_
      generalize symbols bytes = xs at hall
      induction xs with
      | nil => rfl
      | cons x xs ih =>
        rw [List.all_cons, Bool.and_eq_true] at hall
        obtain ⟨c, rfl⟩ := Option.isSome_iff_exists.mp hall.1
        rw [List.map_cons, ih hall.2]
        rfl
    obtain ⟨left, howes, -, heq⟩ := accounts_symbols bytes
    cases howes
    refine ⟨htext, ?_⟩
    rw [← htext, utf8ByteSize_decodeLossy, ← heq hall, Nat.zero_add]
  · cases h

end Utf8

end Turnstile
