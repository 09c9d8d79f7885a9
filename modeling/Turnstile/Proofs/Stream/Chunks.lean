import Turnstile.Proofs.Stream.Script
/-!
# Chunks — the lines do not depend on the cuts

A reader with all bytes before it would split them at the line feeds.
That is the reference (`LineBuffer.linesOf`); the buffer, which sees a
chunk at a time and searches only what is new, gives the same lines, since
what it holds between two chunks is the last piece of what it has seen
(`LineBuffer.push_eq`) and a piece goes on into the next chunk where it
was left (`LineBuffer.pieces_append`). The events of an undisturbed
pump are then a function of the bytes alone.
-/

namespace Turnstile

namespace LineBuffer

/-! ## Pieces between line feeds -/

/-- The pieces that a line feed ends. -/
def finished (bytes : Bytes) : List Bytes := (bytes.splitOn lineFeed).dropLast

/-- The piece after the last line feed. -/
def unfinished (bytes : Bytes) : Bytes :=
  (bytes.splitOn lineFeed).getLast (List.splitOn_ne_nil lineFeed bytes)

/-- The text of a piece: it ends before a carriage return, if that is the
last byte. -/
def textOf (piece : Bytes) : String :=
  match piece.reverse with
  | [] => ""
  | last :: before =>
    Utf8.decodeLossy (before.reverse ++ if last = 0x0D then [] else [last])

/-- **The reference**: the bytes split at the line feeds, the last piece
kept only if there is something in it, and each piece read as a text that
one carriage return at its end is no part of. -/
def linesOf (bytes : Bytes) : List String :=
  let pieces := bytes.splitOn 0x0A
  (if pieces.getLast? = some [] then pieces.dropLast else pieces).map textOf

/-- So a piece is decoded. -/
theorem textOf_eq (piece : Bytes) : textOf piece = decode piece := by
  rw [textOf, decode, ← List.head?_reverse]
  rcases hreverse : piece.reverse with _ | ⟨last, before⟩
  · rw [List.reverse_eq_nil_iff.mp hreverse]
    rfl
  · rw [List.reverse_eq_cons_iff.mp hreverse, List.head?_cons, List.dropLast_concat]
    by_cases hlast : last = 0x0D
    · have hreturn : some last = some carriageReturn := congrArg some hlast
      rw [if_pos hreturn]
      dsimp only
      rw [if_pos hlast, List.append_nil]
    · have hother : some last ≠ some carriageReturn := mt Option.some.inj hlast
      rw [if_neg hother]
      dsimp only
      rw [if_neg hlast]

/-- The lines of bytes are those that a line feed ends and, unless it is
empty, the one after them. -/
theorem linesOf_eq (bytes : Bytes) :
    linesOf bytes = (finished bytes).map decode ++
      if unfinished bytes = [] then [] else [decode (unfinished bytes)] := by
  have hne := List.splitOn_ne_nil lineFeed bytes
  have hsplit : bytes.splitOn lineFeed = finished bytes ++ [unfinished bytes] :=
    (List.dropLast_concat_getLast hne).symm
  rw [linesOf, funext textOf_eq, ← lineFeed, hsplit]
  simp only [List.getLast?_concat, Option.some.injEq, List.dropLast_concat]
  split
  · rw [List.append_nil]
  · rw [List.map_append, List.map_singleton]

/-- Bytes without a line feed are one piece, not finished. -/
theorem pieces_of_not_mem {bytes : Bytes} (h : lineFeed ∉ bytes) :
    finished bytes = [] ∧ unfinished bytes = bytes := by
  simp only [finished, unfinished, List.splitOn_eq_singleton h, List.dropLast_singleton,
    List.getLast_singleton, and_self]

/-- A line feed ends what stands before it and leaves the pieces after it
as they are. -/
theorem pieces_append_cons (before after : Bytes) :
    finished (before ++ lineFeed :: after) = before.splitOn lineFeed ++ finished after ∧
      unfinished (before ++ lineFeed :: after) = unfinished after := by
  have hne := List.splitOn_ne_nil lineFeed after
  constructor
  · rw [finished, List.splitOn_append_cons_self, List.dropLast_append_of_ne_nil hne]
    rfl
  · simp only [unfinished, List.splitOn_append_cons_self, List.getLast_append_of_ne_nil _ hne]

/-- Bytes with a line feed in them have a last one. -/
theorem exists_last_lineFeed {bytes : Bytes} (h : lineFeed ∈ bytes) :
    ∃ before after, bytes = before ++ lineFeed :: after ∧ lineFeed ∉ after := by
  obtain ⟨after, before, heq, hafter⟩ := List.eq_append_cons_of_mem (List.mem_reverse.mpr h)
  refine ⟨before.reverse, after.reverse, ?_, by simpa using hafter⟩
  rw [← List.reverse_reverse bytes, heq]
  simp

/-- The piece after the last line feed has none in it. -/
theorem lineFeed_not_mem_unfinished (bytes : Bytes) : lineFeed ∉ unfinished bytes := by
  by_cases h : lineFeed ∈ bytes
  · obtain ⟨before, after, rfl, hafter⟩ := exists_last_lineFeed h
    rw [(pieces_append_cons before after).2, (pieces_of_not_mem hafter).2]
    exact hafter
  · rwa [(pieces_of_not_mem h).2]

/-- **A piece goes on where it was left**: more bytes continue the
unfinished piece and change none of those finished before it. -/
theorem pieces_append (seen more : Bytes) :
    finished (seen ++ more) = finished seen ++ finished (unfinished seen ++ more) ∧
      unfinished (seen ++ more) = unfinished (unfinished seen ++ more) := by
  by_cases h : lineFeed ∈ seen
  · -- more bytes reach back as far as the last line feed and no further
    obtain ⟨before, after, rfl, hafter⟩ := exists_last_lineFeed h
    obtain ⟨hfin, hunf⟩ := pieces_append_cons before after
    obtain ⟨hnone, hall⟩ := pieces_of_not_mem hafter
    rw [hfin, hunf, hnone, hall, List.append_nil, List.append_assoc, List.cons_append]
    exact pieces_append_cons before (after ++ more)
  · obtain ⟨hnone, hall⟩ := pieces_of_not_mem h
    rw [hnone, hall]
    exact ⟨rfl, rfl⟩

/-- The lines of bytes in two parts. -/
theorem linesOf_append (seen more : Bytes) :
    linesOf (seen ++ more) = (finished seen).map decode ++ linesOf (unfinished seen ++ more) := by
  obtain ⟨hfin, hunf⟩ := pieces_append seen more
  rw [linesOf_eq, linesOf_eq (unfinished seen ++ more), hfin, hunf, List.map_append,
    List.append_assoc]

/-! ## What the buffer makes of a chunk -/

/-- The place of the first line feed: none before it. -/
theorem append_cons_of_findIdx? {bytes : Bytes} {offset : Nat}
    (h : bytes.findIdx? (· == lineFeed) = some offset) :
    bytes.drop offset = lineFeed :: bytes.drop (offset + 1) ∧ lineFeed ∉ bytes.take offset := by
  obtain ⟨hlt, hat, hbefore⟩ := List.findIdx?_eq_some_iff_getElem.mp h
  constructor
  · rw [List.drop_eq_getElem_cons hlt, eq_of_beq hat]
  · intro hmem
    obtain ⟨j, hj, hfeed⟩ := List.mem_take_iff_getElem.mp hmem
    exact hbefore j (by omega) (by simp [hfeed])

/-- **The search cuts off the finished pieces** and stops where the
unfinished one begins, if there is no line feed between the beginning of
the line at hand and the first byte to be searched. -/
theorem completed_eq (pending : Bytes) {lineStart searchFrom : Nat} (hle : lineStart ≤ searchFrom)
    (h : lineFeed ∉ (pending.take searchFrom).drop lineStart) :
    (completed pending lineStart searchFrom).1 =
        (finished (pending.drop lineStart)).map decode ∧
      pending.drop (completed pending lineStart searchFrom).2 =
        unfinished (pending.drop lineStart) := by
  fun_induction completed pending lineStart searchFrom with
  | case1 lineStart searchFrom hnone =>
    -- nothing is found: from the line at hand on there is one piece
    have hfree : lineFeed ∉ pending.drop lineStart := by
      rw [← List.take_append_drop searchFrom pending, List.drop_append]
      intro hmem
      rcases List.mem_append.mp hmem with hmem | hmem
      · exact h hmem
      · have := List.findIdx?_eq_none_iff.mp hnone lineFeed (List.mem_of_mem_drop hmem)
        simp at this
    obtain ⟨hfin, hunf⟩ := pieces_of_not_mem hfree
    rw [hfin, hunf]
    exact ⟨rfl, rfl⟩
  | case2 lineStart searchFrom offset hfound stop lines rest hrec ih =>
    -- the first line feed not yet searched is the first of the line at hand
    obtain ⟨hat, hbefore⟩ := append_cons_of_findIdx? hfound
    have hpiece : lineFeed ∉ (pending.take stop).drop lineStart := by
      rw [List.take_add, List.drop_append]
      intro hmem
      rcases List.mem_append.mp hmem with hmem | hmem
      · exact h hmem
      · exact hbefore (List.mem_of_mem_drop hmem)
    have hstop : stop ≤ pending.length := by
      have := (List.findIdx?_eq_some_iff_findIdx_eq.mp hfound).1
      rw [List.length_drop] at this
      omega
    have hsplit : pending.drop lineStart =
        (pending.take stop).drop lineStart ++ lineFeed :: pending.drop (stop + 1) := by
      rw [List.drop_drop, List.drop_drop, ← Nat.add_assoc] at hat
      have hlen : lineStart ≤ (pending.take stop).length := by
        rw [List.length_take]
        omega
      calc pending.drop lineStart
          = (pending.take stop ++ pending.drop stop).drop lineStart := by
            rw [List.take_append_drop]
        _ = (pending.take stop).drop lineStart ++ lineFeed :: pending.drop (stop + 1) := by
            rw [List.drop_append_of_le_length hlen, hat]
    obtain ⟨hfin, hunf⟩ := pieces_append_cons ((pending.take stop).drop lineStart)
      (pending.drop (stop + 1))
    rw [hsplit, hfin, hunf, List.splitOn_eq_singleton hpiece]
    -- behind it nothing has been searched, so the search goes on as it began
    obtain ⟨hlines, hrest⟩ := ih (Nat.le_refl _) (by simp)
    rw [hrec] at hlines hrest
    exact ⟨congrArg (decode _ :: ·) hlines, hrest⟩

/-- **A chunk taken in**: the buffer holds the unfinished piece of what it
held with the chunk after it, and the finished ones have become lines. -/
theorem push_eq (buffer : LineBuffer) (chunk : Bytes) (h : lineFeed ∉ buffer.pending) :
    buffer.push chunk = (⟨unfinished (buffer.pending ++ chunk)⟩,
      (finished (buffer.pending ++ chunk)).map decode) := by
  have hsearched : lineFeed ∉
      ((buffer.pending ++ chunk).take buffer.pending.length).drop 0 := by
    rwa [List.take_left, List.drop_zero]
  obtain ⟨hlines, hrest⟩ := completed_eq _ (Nat.zero_le _) hsearched
  rw [List.drop_zero] at hlines hrest
  rw [push, ← hlines, ← hrest]

/-- At the end what the buffer holds is the last line, unless it holds
nothing. -/
theorem finish_eq (buffer : LineBuffer) (h : lineFeed ∉ buffer.pending) :
    buffer.finish.2.toList = linesOf buffer.pending := by
  obtain ⟨hfin, hunf⟩ := pieces_of_not_mem h
  rw [linesOf_eq, hfin, hunf, finish]
  by_cases hempty : buffer.pending = []
  · simp [hempty]
  · simp [hempty]

end LineBuffer

namespace Pump

variable {n : Normalizer}

/-- The script of lines when nobody cancels. -/
theorem lineScript_none (n : Normalizer) (looks : Nat) (s : n.State) (lines : List String) :
    lineScript n none looks s lines =
      ((n.feed s lines).2.flatten, some (n.feed s lines).1) := by
  induction lines generalizing looks s with
  | nil => rfl
  | cons line lines ih =>
    rw [lineScript, if_neg (by simp [seesCancel])]
    simp only [ih]
    rfl

/-- **The script of chunks is that of their lines**, those of the bytes
held and of all the chunks after them. -/
theorem script_chunks (looks : Nat) (s : n.State) (buffer : LineBuffer)
    (h : LineBuffer.lineFeed ∉ buffer.pending) (chunks : List Bytes) :
    script n none looks s buffer (chunks.map .chunk) =
      n.runFrom s (LineBuffer.linesOf (buffer.pending ++ chunks.flatten)) ++ [.done .zero] := by
  induction chunks generalizing looks s buffer with
  | nil =>
    rw [List.map_nil, script, if_neg (by simp [seesCancel]), endScript, followedBy, lineScript_none,
      LineBuffer.finish_eq buffer h, List.flatten_nil, List.append_nil, Normalizer.runFrom,
      List.append_assoc]
    rfl
  | cons chunk chunks ih =>
    rw [List.map_cons, script, if_neg (by simp [seesCancel]), LineBuffer.push_eq buffer chunk h]
    have hheld := LineBuffer.lineFeed_not_mem_unfinished (buffer.pending ++ chunk)
    simp only [followedBy, lineScript_none, Option.elim_some]
    rw [ih _ _ ⟨LineBuffer.unfinished (buffer.pending ++ chunk)⟩ hheld, List.flatten_cons,
      ← List.append_assoc buffer.pending, LineBuffer.linesOf_append (buffer.pending ++ chunk),
      n.runFrom_append, List.append_assoc]

end Pump

namespace Normalizer

/-- What all the bytes of a body make of a stream, had they come at once:
the lines are fed in turn, the end after them, nothing is reported at the
end, and the events are cut after the first terminal one. -/
def streamOf (n : Normalizer) (bytes : Bytes) : List ChatEvent :=
  ChatEvent.untilTerminal (n.run (LineBuffer.linesOf bytes) ++ [.done .zero])

end Normalizer

/-- **The cuts between chunks are invisible.** However bytes are cut into
chunks, an undisturbed pump gives the events of the bytes; so two ways of
cutting the same bytes give the same events. -/
theorem pumpEvents_chunks (n : Normalizer) (bytes : Bytes) :
    (∀ chunks : List Bytes, chunks.flatten = bytes →
      pumpEvents n none (chunks.map .chunk) = n.streamOf bytes) ∧
    ∀ chunks chunks' : List Bytes, chunks.flatten = bytes → chunks'.flatten = bytes →
      pumpEvents n none (chunks.map .chunk) = pumpEvents n none (chunks'.map .chunk) := by
  have hstream (chunks : List Bytes) (h : chunks.flatten = bytes) :
      pumpEvents n none (chunks.map .chunk) = n.streamOf bytes := by
    rw [pumpEvents_eq, Pump.script_chunks _ _ _ (by simp [LineBuffer.empty]), ← h]
    rfl
  exact ⟨hstream, fun chunks chunks' h h' => (hstream chunks h).trans (hstream chunks' h').symm⟩

/-- A token for every line. -/
def Normalizer.echo : Normalizer where
  State := Unit
  start := ()
  onLine s line := (s, [.token line])
  onEnd _ := []

/-- Cut within a character, between two carriage returns and before a line
feed, the bytes give two lines as they do in one chunk. Of the returns the
first is a part of its line, and a byte that is none of a character is
replaced. -/
theorem pumpEvents_chunks_echo :
    let bytes : Bytes := [0x68, 0xC3, 0xA9, 0x0D, 0x0D, 0x0A, 0xFF, 0x21]
    let chunks : List Bytes := [[0x68, 0xC3], [], [0xA9, 0x0D], [0x0D], [0x0A, 0xFF, 0x21]]
    chunks.flatten = bytes ∧
      pumpEvents .echo none (chunks.map .chunk) =
        [.token "hé\r", .token "\uFFFD!", .done .zero] ∧
      pumpEvents .echo none (chunks.map .chunk) = pumpEvents .echo none [.chunk bytes] := by
  intro bytes chunks
  have hchunks : chunks.flatten = bytes := rfl
  obtain ⟨hstream, hsame⟩ := pumpEvents_chunks .echo bytes
  exact ⟨hchunks, (hstream chunks hchunks).trans rfl, hsame chunks [bytes] hchunks rfl⟩

end Turnstile
