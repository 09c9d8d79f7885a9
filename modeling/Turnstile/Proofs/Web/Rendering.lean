import Turnstile.Proofs.Capture
/-!
# Rendering — reading on would not change what is shown

The body of a response is read in chunks, and no further than the chunk
that passes the cap. What was read then may end within a character, or
within bytes that are none, and is decoded differently there than the whole
body is. But a decoder that owes for `n` bytes has accounted for all the
others, and whatever it comes to next takes `n` bytes at least
(`exists_symbols_run`), more than there is room for. So a start of the
bytes that is longer than the cap gives the text that all of them do
(`truncate_decodeLossy_of_prefix`), and a body is shown as if it had been
read to its end, in whatever chunks it arrived (`answer_of_chunks`).
-/

namespace Turnstile

namespace Text

/-- **A cut falls where it would** if what follows begins with a character
that does not fit. -/
theorem truncate_of_start {s : String} {max : Nat} {start rest : List Char}
    (hs : s.toList = start ++ rest)
    (hnext : ∀ c ∈ rest.head?, max < size start + c.utf8Size) :
    truncate s max = truncate (String.ofList start) max := by
  obtain ⟨cut, hcut, hfits, hcutNext⟩ := exists_rest (String.ofList start) max
  generalize truncate (String.ofList start) max = kept at *
  rw [String.toList_ofList] at hcut
  rw [utf8ByteSize_eq] at hfits hcutNext
  have hsplit : s.toList = kept.toList ++ (cut ++ rest) := by
    rw [hs, hcut, List.append_assoc]
  rw [truncate_of_rest hsplit hfits, String.ofList_toList]
  intro c hc
  cases cut with
  | nil =>
    -- all of the start is kept, and what follows it does not fit
    rw [List.append_nil] at hcut
    rw [← hcut]
    exact hnext c hc
  | cons d cut => exact hcutNext c hc

end Text

namespace Utf8

/-- A byte of a sequence comes to nothing yet, or ends it: with a
character, or as ill-formed. -/
theorem step_more (lo hi : UInt8) (due acc : Nat) (b : UInt8) :
    (step (.more lo hi due acc) b).2 = [] ∨
      (∃ c, step (.more lo hi due acc) b = (.nothing, [some c])) ∨
      ∃ xs, (step (.more lo hi due acc) b).2 = none :: xs := by
  rw [step]
  by_cases hrange : lo ≤ b ∧ b ≤ hi
  · rw [if_pos hrange]
    -- with one byte due, or none, the character is complete
    rcases due with - | - | due
    · exact Or.inr (Or.inl ⟨_, rfl⟩)
    · exact Or.inr (Or.inl ⟨_, rfl⟩)
    · exact Or.inl rfl
  · rw [if_neg hrange]
    exact Or.inr (Or.inr ⟨_, rfl⟩)

/-- **A byte read where `n` are owed for** makes one more to be owed for,
or comes to a symbol of `n` bytes at least. -/
theorem step_cases {owed : Owed} {n : Nat} (h : Owes owed n) (b : UInt8) :
    ((step owed b).2 = [] ∧ Owes (step owed b).1 (n + 1)) ∨
      ∃ x xs, (step owed b).2 = x :: xs ∧ n ≤ width [x] := by
  obtain ⟨left, howes, -, haccounts⟩ := accounts_step h b
  rcases hout : (step owed b).2 with - | ⟨x, xs⟩
  · rw [hout] at haccounts
    have hleft : left = n + 1 := haccounts rfl
    rw [hleft] at howes
    exact Or.inl ⟨rfl, howes⟩
  · refine Or.inr ⟨x, xs, rfl, ?_⟩
    cases owed with
    | nothing =>
      cases h
      exact Nat.zero_le _
    | more lo hi due acc =>
      rcases step_more lo hi due acc b with hnone | ⟨c, hchar⟩ | ⟨ys, hinvalid⟩
      · rw [hnone] at hout
        cases hout
      · -- the character accounts for the bytes of the sequence and this one
        rw [hchar] at hout howes haccounts
        cases hout
        cases howes
        have hbytes : 0 + width [some c] = n + 1 := haccounts rfl
        omega
      · rw [hinvalid] at hout
        cases hout
        exact h.le

/-- **What a decoder comes to next**: where `n` bytes are owed for, a symbol
of that many at least, whatever is read. -/
theorem exists_symbols_run {d : Decoder} {n : Nat} (h : Owes d.owed n) (bytes : Bytes) :
    ∃ later, (d.run bytes).symbols = d.produced.reverse ++ later ∧
      ∀ x ∈ later.head?, n ≤ width [x] := by
  induction bytes generalizing d n with
  | nil =>
    have hrun : d.run [] = d := rfl
    rw [hrun, Decoder.symbols]
    cases howed : d.owed with
    | nothing => exact ⟨[], (List.append_nil _).symm, by simp⟩
    | more lo hi due acc =>
      -- the end leaves the sequence ill-formed
      refine ⟨[none], List.reverse_cons, fun x hx => ?_⟩
      cases hx
      exact h.le
  | cons b bytes ih =>
    have hfeed : d.run (b :: bytes) = (d.feed b).run bytes := rfl
    have hproduced : (d.feed b).produced.reverse = d.produced.reverse ++ (step d.owed b).2 := by
      change ((step d.owed b).2.reverse ++ d.produced).reverse = _
      rw [List.reverse_append, List.reverse_reverse]
    rcases step_cases h b with ⟨hnone, howes⟩ | ⟨x, xs, hout, hwidth⟩
    · obtain ⟨later, hlater, hhead⟩ := ih (d := d.feed b) howes
      rw [hproduced, hnone, List.append_nil] at hlater
      exact ⟨later, hlater, fun x hx => Nat.le_of_succ_le (hhead x hx)⟩
    · obtain ⟨left, howes, -, -⟩ := accounts_step h b
      obtain ⟨later, hlater, -⟩ := ih (d := d.feed b) howes
      rw [hproduced, hout, List.append_assoc] at hlater
      refine ⟨x :: xs ++ later, hlater, fun y hy => ?_⟩
      cases hy
      exact hwidth

/-- **Past the cap, reading on changes nothing**: a start of the bytes that
is longer than the cap gives the text that all of them give. -/
theorem truncate_decodeLossy_of_prefix {read bytes : Bytes} {max : Nat} (hstart : read <+: bytes)
    (hmore : max < read.length) :
    Text.truncate (decodeLossy read) max = Text.truncate (decodeLossy bytes) max := by
  obtain ⟨rest, rfl⟩ := hstart
  obtain ⟨n, howes, haccounts, -⟩ := accounts_run read
  dsimp only at howes haccounts
  rw [← width_reverse] at haccounts
  generalize hproduced : (Decoder.start.run read).produced.reverse = produced at haccounts
  -- whatever is read on, what comes after these symbols does not fit
  have hcut : ∀ later, Text.truncate (decodeLossy (read ++ later)) max =
      Text.truncate (String.ofList (produced.map fun x => x.getD replacement)) max := by
    intro later
    obtain ⟨others, hothers, hhead⟩ := exists_symbols_run howes later
    have hchars : (decodeLossy (read ++ later)).toList =
        (produced.map fun x => x.getD replacement) ++ others.map fun x => x.getD replacement := by
      rw [decodeLossy, String.toList_ofList, symbols, Decoder.run_append, hothers, hproduced,
        List.map_append]
    refine Text.truncate_of_start hchars fun c hc => ?_
    rw [List.head?_map] at hc
    obtain ⟨x, hx, rfl⟩ := Option.map_eq_some_iff.mp hc
    have hwidth : n ≤ (x.getD replacement).utf8Size + 0 := hhead x hx
    change max < width produced + _
    omega
  have hread := hcut []
  rw [List.append_nil] at hread
  rw [hread, hcut rest]

end Utf8

namespace HttpTool

open Utf8 (decodeLossy)

variable {max : Nat} {before : Bytes}

/-- The body that arrives in these chunks. -/
abbrev ofChunks (chunks : List Bytes) : Body := chunks.map .chunk

/-- Chunks within the cap are all read. -/
theorem gather_within {chunks : List Bytes} (h : (before ++ chunks.flatten).length ≤ max) :
    gather max before (ofChunks chunks) = .ok (before ++ chunks.flatten, false) := by
  induction chunks generalizing before with
  | nil =>
    rw [List.flatten_nil, List.append_nil]
    rfl
  | cons chunk chunks ih =>
    rw [List.flatten_cons, ← List.append_assoc] at h ⊢
    have hfits : ¬ max < (before ++ chunk).length := by
      rw [List.length_append] at h
      omega
    rw [ofChunks, List.map_cons, gather, if_neg hfits]
    exact ih h

/-- Of others no more is read than up to the chunk that passes it, and what
comes after does not matter. -/
theorem gather_past {chunks : List Bytes} (hbefore : before.length ≤ max)
    (h : max < (before ++ chunks.flatten).length) :
    ∃ read, read <+: before ++ chunks.flatten ∧ max < read.length ∧
      ∀ rest : Body, gather max before (ofChunks chunks ++ rest) = .ok (read, true) := by
  induction chunks generalizing before with
  | nil =>
    rw [List.flatten_nil, List.append_nil] at h
    omega
  | cons chunk chunks ih =>
    rw [List.flatten_cons, ← List.append_assoc] at h ⊢
    by_cases hpast : max < (before ++ chunk).length
    · refine ⟨before ++ chunk, List.prefix_append _ _, hpast, fun rest => ?_⟩
      rw [ofChunks, List.map_cons, List.cons_append, gather, if_pos hpast]
    · obtain ⟨read, hstart, hmore, hgather⟩ := ih (Nat.not_lt.mp hpast) h
      refine ⟨read, hstart, hmore, fun rest => ?_⟩
      rw [ofChunks, List.map_cons, List.cons_append, gather, if_neg hpast]
      exact hgather rest

theorem answer_of_gather {policy : Policy} {response : HttpResponse} {read : Bytes} {marked : Bool}
    (h : gather policy.effectiveMaxOutputBytes [] response.body = .ok (read, marked)) :
    answer policy response =
      outcome response (head response.status ++
        Text.truncate (decodeLossy read) policy.effectiveMaxOutputBytes ++ mark marked) := by
  rw [answer, h]
  rfl

/-- **A body longer than the cap** is shown by what was read of it when it
passed the cap, whatever would have come after, and as it would be by more
of it. -/
theorem answer_of_past {policy : Policy} {response : HttpResponse} {chunks : List Bytes}
    {rest : Body} (hbody : response.body = ofChunks chunks ++ rest)
    (hpast : policy.effectiveMaxOutputBytes < chunks.flatten.length) :
    answer policy response =
      outcome response (head response.status ++
        Text.truncate (decodeLossy chunks.flatten) policy.effectiveMaxOutputBytes ++ mark true) := by
  have hnothing : ([] : Bytes).length ≤ policy.effectiveMaxOutputBytes := Nat.zero_le _
  obtain ⟨read, hstart, hmore, hgather⟩ := gather_past hnothing hpast
  rw [List.nil_append] at hstart
  rw [answer_of_gather (hbody ▸ hgather rest),
    Utf8.truncate_decodeLossy_of_prefix hstart hmore]

/-- **A body is shown as if it were read whole**, in whatever chunks it
arrives. -/
theorem answer_of_chunks {policy : Policy} {response : HttpResponse} {chunks : List Bytes}
    (hbody : response.body = ofChunks chunks) :
    answer policy response =
      outcome response (head response.status ++
        Text.truncate (decodeLossy chunks.flatten) policy.effectiveMaxOutputBytes ++
          mark (decide (policy.effectiveMaxOutputBytes < chunks.flatten.length))) := by
  by_cases hpast : policy.effectiveMaxOutputBytes < chunks.flatten.length
  · rw [decide_eq_true hpast]
    exact answer_of_past (hbody.trans (List.append_nil _).symm) hpast
  · rw [decide_eq_false hpast]
    have hwithin : gather policy.effectiveMaxOutputBytes [] (ofChunks chunks) =
        .ok (chunks.flatten, false) := gather_within (Nat.not_lt.mp hpast)
    exact answer_of_gather (hbody ▸ hwithin)

/-- What is shown of a body under a cap, and whether it is marked. -/
structure Rendered (max : Nat) (bytes : Bytes) (shown : String) (marked : Bool) : Prop where
  /-- A start of the text of the whole body is shown. -/
  start : shown.toList <+: (decodeLossy bytes).toList
  bound : shown.utf8ByteSize ≤ max
  /-- No longer one is within the cap. -/
  longest : ∀ text : String, text.toList <+: (decodeLossy bytes).toList →
    text.utf8ByteSize ≤ max → text.utf8ByteSize ≤ shown.utf8ByteSize
  marked_iff : marked = true ↔ max < bytes.length

/-- **The body of a response is rendered whole.** A request that is
answered by a body in whatever chunks gives the status line, a blank line,
the longest start of the body's text within the cap, and the mark if the
body has more bytes than that: as an answer for a status from 200 to 299,
and else as a failed execution. Reading only as far as some chunk past the cap gives the
same, whatever is there in place of the rest. -/
theorem execute_renders {network : Network} {input : Json} {policy : Policy} {w : World}
    {response : HttpResponse} (h : Answered network input policy w response)
    {chunks : List Bytes} (hbody : response.body = ofChunks chunks) :
    ∃ shown marked,
      Rendered policy.effectiveMaxOutputBytes chunks.flatten shown marked ∧
      (200 ≤ response.status ∧ response.status < 300 → ((execute network input policy).on w).1 =
        .ok (head response.status ++ shown ++ mark marked)) ∧
      (¬ (200 ≤ response.status ∧ response.status < 300) → ((execute network input policy).on w).1 =
        .error (.execution (head response.status ++ shown ++ mark marked))) ∧
      ∀ read unread, chunks = read ++ unread →
        policy.effectiveMaxOutputBytes < read.flatten.length → ∀ rest : Body,
          answer policy { response with body := ofChunks read ++ rest } =
            ((execute network input policy).on w).1 := by
  rw [execute_of_answered h, answer_of_chunks hbody]
  refine ⟨Text.truncate (decodeLossy chunks.flatten) policy.effectiveMaxOutputBytes,
    decide (policy.effectiveMaxOutputBytes < chunks.flatten.length),
    ⟨Text.truncate_prefix _ _, Text.truncate_le _ _, fun _ => Text.truncate_longest,
      decide_eq_true_iff⟩, fun hok => ?_, fun hbad => ?_, fun read unread hchunks hpast rest => ?_⟩
  · rw [outcome, if_pos (HttpResponse.isSuccess_iff.mpr hok)]
  · rw [outcome, if_neg (mt HttpResponse.isSuccess_iff.mp hbad)]
  · have hstart : read.flatten <+: chunks.flatten := by
      rw [hchunks, List.flatten_append]
      exact List.prefix_append _ _
    have hpast' := Nat.lt_of_lt_of_le hpast hstart.length_le
    rw [answer_of_past rfl hpast, Utf8.truncate_decodeLossy_of_prefix hstart hpast,
      decide_eq_true hpast']
    rfl

/-- A page with this status, in two chunks with a cut within a character. -/
def page (status : Nat) : HttpResponse :=
  ⟨status, [], ofChunks [[0x61, 0xF0, 0x9F], [0x98, 0x80, 0x62]]⟩

/-- A server that has no other. -/
def serving (status : Nat) : Network := fun _ => pure (.ok (page status))

/-- The request for it. -/
def askingHop : Hop :=
  ⟨"GET", ⟨"http", "", "", some (.name "a.test"), none, .segments [""], none, none⟩, [], none⟩

/-- Two bytes of a body are let through. -/
def tightHosts : Policy := { testHosts with maxOutputBytes := 2 }

/-- A page that leads nowhere else is the answer. -/
theorem answered_page (status : Nat) (h : target? askingHop.url (page status) = none) :
    Answered (serving status) asking tightHosts (.fresh ⟨[]⟩ []) (page status) := by
  have hrequest : askingHop.request =
      .ok ⟨"GET", askingHop.url, [("user-agent", userAgent)], none⟩ := by decide +kernel
  have hfollow : (follow (serving status) tightHosts redirectLimit askingHop).on
      (.fresh ⟨[]⟩ []) = _ := follow_of_stays rfl hrequest rfl h
  exact ⟨⟨"http://a.test/", none, [], none⟩, askingHop, _, by decide +kernel, by decide +kernel,
    hfollow, rfl⟩

/-- The first chunk passes the cap within the character, which then is not
shown, as it would not be of the whole body. -/
theorem execute_renders_page :
    (Answered (serving 404) asking tightHosts (.fresh ⟨[]⟩ []) (page 404) ∧
      Answered (serving 299) asking tightHosts (.fresh ⟨[]⟩ []) (page 299)) ∧
    (∃ shown marked,
      Rendered 2 [0x61, 0xF0, 0x9F, 0x98, 0x80, 0x62] shown marked ∧
      ((execute (serving 404) asking tightHosts).on (.fresh ⟨[]⟩ [])).1 =
        .error (.execution (head 404 ++ shown ++ mark marked))) ∧
    (∃ shown marked,
      Rendered 2 [0x61, 0xF0, 0x9F, 0x98, 0x80, 0x62] shown marked ∧
      ((execute (serving 299) asking tightHosts).on (.fresh ⟨[]⟩ [])).1 =
        .ok (head 299 ++ shown ++ mark marked)) ∧
    ((execute (serving 404) asking tightHosts).on (.fresh ⟨[]⟩ [])).1 =
      .error (.execution "HTTP 404 Not Found\n\na\n... [output truncated]") := by
  have hmissing := answered_page 404 rfl
  have hfound := answered_page 299 rfl
  obtain ⟨shown, marked, hrendered, -, hfailed, -⟩ := execute_renders hmissing rfl
  obtain ⟨shown', marked', hrendered', hok, -, -⟩ := execute_renders hfound rfl
  exact ⟨⟨hmissing, hfound⟩, ⟨shown, marked, hrendered, hfailed (by decide)⟩,
    ⟨shown', marked', hrendered', hok (by decide)⟩, by decide +kernel⟩

end HttpTool

end Turnstile
