import Turnstile.Proofs.Draining
import Turnstile.Proofs.Web.Redirects
/-!
# Output — what is shown under a cap

Output of a process and the body of a response are kept as bytes, decoded,
and cut where the text is longer than the cap. They are marked where there
were more bytes than that. A mark is never put where nothing is missing;
and where none is put, the text is the longest start of the whole decoding
within the cap, so it is all of it for bytes that are well-formed
(`Shows`). Ill-formed bytes may be longer once decoded, and then the end of
a text within the cap in bytes may be missing without a mark, which is
where the guarantee ends (`capture_lost_unmarked`).
-/

namespace Turnstile

open Utf8 (decodeLossy decode?)

/-- What is shown of bytes, without the mark, and whether there is one. -/
structure Shows (max : Nat) (bytes : Bytes) (shown : String) (marked : Bool) : Prop where
  bound : shown.utf8ByteSize ≤ max
  /-- The mark tells of more bytes than the cap. -/
  marked_iff : marked = true ↔ max < bytes.length
  /-- It is put only where the whole text would not fit. -/
  missing : marked = true → max < (decodeLossy bytes).utf8ByteSize
  /-- With a mark the first bytes are shown, as many as the cap or more, and
  of their text what fits. -/
  cut : marked = true → ∃ kept, kept <+: bytes ∧ max ≤ kept.length ∧
    shown = Text.truncate (decodeLossy kept) max
  /-- Without a mark a start of the whole text is shown. -/
  start : marked = false → shown.toList <+: (decodeLossy bytes).toList
  /-- It is the longest that fits. -/
  longest : marked = false → ∀ text : String, text.toList <+: (decodeLossy bytes).toList →
    text.utf8ByteSize ≤ max → text.utf8ByteSize ≤ shown.utf8ByteSize
  /-- It is all of it exactly if that fits. -/
  complete_iff : marked = false →
    (shown = decodeLossy bytes ↔ (decodeLossy bytes).utf8ByteSize ≤ max)
  /-- So it is all of well-formed bytes. -/
  wellFormed : marked = false → ∀ text, decode? bytes = some text → shown = text

/-- The mark, where there is one. -/
def mark (marked : Bool) : String := if marked then Text.truncationMarker else ""

/-- Bytes that were kept as far as the cap or further, decoded and cut. -/
theorem shows_truncate {max : Nat} {bytes kept : Bytes} {marked : Bool}
    (hmarked : marked = true ↔ max < bytes.length) (hfirst : kept <+: bytes)
    (hcut : marked = true → max ≤ kept.length) (hkept : marked = false → kept = bytes) :
    Shows max bytes (Text.truncate (decodeLossy kept) max) marked where
  bound := Text.truncate_le _ _
  marked_iff := hmarked
  missing h := Nat.lt_of_lt_of_le (hmarked.mp h) (Utf8.length_le_decodeLossy bytes)
  cut h := ⟨kept, hfirst, hcut h, rfl⟩
  start h := by
    rw [hkept h]
    exact Text.truncate_prefix _ _
  longest h text hstart hfits := by
    rw [hkept h]
    exact Text.truncate_longest hstart hfits
  complete_iff h := by
    rw [hkept h]
    exact Text.truncate_eq_iff _ _
  wellFormed h text htext := by
    obtain ⟨hdecoded, hsize⟩ := Utf8.decodeLossy_of_decode? htext
    have hle : bytes.length ≤ max := by
      rw [← Nat.not_lt, ← hmarked, h]
      exact Bool.false_ne_true
    rw [hkept h, hdecoded]
    exact Text.truncate_of_le (hsize.trans_le hle)

/-! ## Output of a process -/

namespace Captured

/-- Captured text: the bytes within the cap decoded, what fits of that, and
the mark if there were more. -/
theorem text_capture (max : Nat) (stopAt : Option Nat) (reads : List PipeRead) :
    (capture max stopAt reads).text =
      Text.truncate (decodeLossy ((heardBytes stopAt reads).take max)) max ++
        mark (decide (max < (heardBytes stopAt reads).length)) := by
  rw [capture_eq]
  change (if max < (heardBytes stopAt reads).length then _ else _) = _
  by_cases hmore : max < (heardBytes stopAt reads).length
  · rw [if_pos hmore, mark, if_pos (decide_eq_true hmore)]
    rfl
  · rw [if_neg hmore, mark, if_neg (by simpa using hmore), String.append_empty]
    rfl

theorem shows_capture (max : Nat) (stopAt : Option Nat) (reads : List PipeRead) :
    (capture max stopAt reads).totalBytes = (heardBytes stopAt reads).length ∧
    ∃ shown, (capture max stopAt reads).text =
        shown ++ mark (capture max stopAt reads).truncated ∧
      Shows max (heardBytes stopAt reads) shown (capture max stopAt reads).truncated := by
  have htotal : (capture max stopAt reads).totalBytes = (heardBytes stopAt reads).length := by
    rw [capture_eq]
    rfl
  have htruncated : (capture max stopAt reads).truncated =
      decide (max < (heardBytes stopAt reads).length) := by
    rw [capture_eq]
    rfl
  rw [htruncated]
  refine ⟨htotal, Text.truncate (decodeLossy ((heardBytes stopAt reads).take max)) max,
    text_capture max stopAt reads,
    shows_truncate decide_eq_true_iff (List.take_prefix _ _) (fun h => ?_) fun h => ?_⟩
  · have hmore : max < (heardBytes stopAt reads).length := of_decide_eq_true h
    rw [List.length_take]
    omega
  · exact List.take_of_length_le (Nat.not_lt.mp (of_decide_eq_false h))

end Captured

/-! ## The body of a response -/

namespace HttpTool

variable {max : Nat} {before got : Bytes} {body : Body} {marked : Bool}

theorem bytes_chunk {bytes whole : Bytes} {rest : Body}
    (h : Body.bytes (.chunk bytes :: rest) = .ok whole) :
    ∃ more, rest.bytes = .ok more ∧ whole = bytes ++ more := by
  rw [Body.bytes] at h
  cases hrest : rest.bytes with
  | error e =>
    rw [hrest] at h
    cases h
  | ok more =>
    rw [hrest] at h
    cases h
    exact ⟨more, rfl, rfl⟩

/-- Reading ends with the body, or as soon as there are more bytes than
the cap. -/
theorem gather_cases (hbefore : before.length ≤ max)
    (h : gather max before body = .ok (got, marked)) :
    (marked = false ∧ got.length ≤ max ∧ ∃ bytes, body.bytes = .ok bytes ∧ got = before ++ bytes) ∨
    (marked = true ∧ max < got.length ∧
      ∀ bytes, body.bytes = .ok bytes → got <+: before ++ bytes) := by
  induction body generalizing before with
  | nil =>
    cases h
    exact Or.inl ⟨rfl, hbefore, [], rfl, (List.append_nil _).symm⟩
  | cons piece rest ih =>
    cases piece with
    | chunk bytes =>
      rw [gather] at h
      split at h
      · rename_i hmore
        cases h
        refine Or.inr ⟨rfl, hmore, fun whole hwhole => ?_⟩
        obtain ⟨more, -, rfl⟩ := bytes_chunk hwhole
        exact ⟨more, List.append_assoc ..⟩
      · rename_i hwithin
        rcases ih (Nat.not_lt.mp hwithin) h with
          ⟨hmarked, hle, more, hmore, rfl⟩ | ⟨hmarked, hlt, hall⟩
        · refine Or.inl ⟨hmarked, hle, bytes ++ more, ?_, List.append_assoc ..⟩
          rw [Body.bytes, hmore]
          rfl
        · refine Or.inr ⟨hmarked, hlt, fun whole hwhole => ?_⟩
          obtain ⟨more, hmore, rfl⟩ := bytes_chunk hwhole
          rw [← List.append_assoc]
          exact hall more hmore
    | failure text => cases h
    | silence => cases h

/-- Reading fails only where the body does not arrive whole. -/
theorem bytes_of_gather_error {e : ToolError} (h : gather max before body = .error e) :
    ∃ cause, body.bytes = .error cause := by
  induction body generalizing before with
  | nil => cases h
  | cons piece rest ih =>
    cases piece with
    | chunk bytes =>
      rw [gather] at h
      split at h
      · cases h
      · obtain ⟨cause, hcause⟩ := ih h
        exact ⟨cause, by rw [Body.bytes, hcause]; rfl⟩
    | failure text => exact ⟨_, rfl⟩
    | silence => exact ⟨_, rfl⟩

/-- What comes before the body. -/
def head (status : Nat) : String :=
  "HTTP " ++ toString status ++ " " ++ HttpResponse.phrase status ++ "\n\n"

/-- A text as the outcome of a response: a success, or a failed execution. -/
def outcome (response : HttpResponse) (text : String) : Except ToolError String :=
  if response.isSuccess then .ok text else .error (.execution text)

/-- **An answer shows the body**, unless reading it fails. -/
theorem answer_cases (policy : Policy) (response : HttpResponse) :
    (∃ e cause, gather policy.effectiveMaxOutputBytes [] response.body = .error e ∧
      answer policy response = .error e ∧ response.body.bytes = .error cause) ∨
    ∃ shown marked,
      answer policy response = outcome response (head response.status ++ shown ++ mark marked) ∧
      (marked = false → ∃ bytes, response.body.bytes = .ok bytes) ∧
      ∀ bytes, response.body.bytes = .ok bytes →
        Shows policy.effectiveMaxOutputBytes bytes shown marked := by
  rw [answer]
  cases hgather : gather policy.effectiveMaxOutputBytes [] response.body with
  | error e =>
    obtain ⟨cause, hcause⟩ := bytes_of_gather_error hgather
    exact Or.inl ⟨e, cause, rfl, rfl, hcause⟩
  | ok read =>
    obtain ⟨got, marked⟩ := read
    rcases gather_cases (Nat.zero_le _) hgather with
      ⟨rfl, hle, whole, hwhole, hgot⟩ | ⟨rfl, hmore, hfirst⟩
    · rw [List.nil_append] at hgot
      subst hgot
      refine Or.inr ⟨_, false, rfl, fun _ => ⟨got, hwhole⟩, fun bytes hbytes => ?_⟩
      rw [hwhole, Except.ok.injEq] at hbytes
      subst hbytes
      refine shows_truncate ?_ (List.prefix_refl _) (fun htrue => ?_) fun _ => rfl
      · simpa using hle
      · cases htrue
    · refine Or.inr ⟨_, true, rfl, fun hfalse => ?_, fun bytes hbytes => ?_⟩
      · cases hfalse
      · have hgot : got <+: bytes := hfirst bytes hbytes
        have hall := Nat.lt_of_lt_of_le hmore hgot.length_le
        refine shows_truncate (iff_of_true rfl hall) hgot (fun _ => Nat.le_of_lt hmore)
          fun hfalse => ?_
        cases hfalse

/-- The request of an input is answered by this response in the end. -/
def Answered (network : Network) (input : Json) (policy : Policy) (w : World)
    (response : HttpResponse) : Prop :=
  ∃ args hop after, Args.reader Source.value (Doc.ofJson input) = .ok args ∧
    firstHop args policy = .ok hop ∧
    (follow network policy redirectLimit hop).on w = (.ok response, after) ∧
    after.isCancelled = false

theorem execute_of_answered {network : Network} {input : Json} {policy : Policy} {w : World}
    {response : HttpResponse} (h : Answered network input policy w response) :
    ((execute network input policy).on w).1 = answer policy response := by
  obtain ⟨args, hop, after, hargs, hfirst, hfollow, hcancelled⟩ := h
  rw [execute, Act.on_bind, Tool.input, hargs]
  simp [hfirst, hfollow, hcancelled]

theorem answered_of_execute {network : Network} {input : Json} {policy : Policy} {w : World}
    {text : String} (h : ((execute network input policy).on w).1 = .ok text) :
    ∃ response, Answered network input policy w response := by
  rw [execute, Act.on_bind, Tool.input] at h
  cases hargs : Args.reader Source.value (Doc.ofJson input) with
  | error mismatch =>
    rw [hargs] at h
    cases h
  | ok args =>
    rw [hargs, Act.on_pure] at h
    dsimp only at h
    rw [Act.on_bind, Act.on_ofExcept] at h
    cases hfirst : firstHop args policy with
    | error e =>
      rw [hfirst] at h
      cases h
    | ok hop =>
      rw [hfirst] at h
      dsimp only at h
      rw [Act.on_bind] at h
      rcases hfollow : (follow network policy redirectLimit hop).on w with ⟨e | response, after⟩
      · rw [hfollow] at h
        cases h
      · rw [hfollow] at h
        refine ⟨response, args, hop, after, hargs, hfirst, hfollow, ?_⟩
        by_contra hcancelled
        rw [Bool.not_eq_false] at hcancelled
        simp [hcancelled] at h

end HttpTool

/-! ## What is shown -/

open HttpTool (Answered head outcome answer execute)

/-- **What a cap lets through is told.** Output that is captured is shown
in the way of `Shows`, and so is the body of a response, as the outcome of
a request that it answers, unless it breaks off: without a mark it arrived
whole. A request gives a text only if it is answered. -/
theorem output_shown (max : Nat) (stopAt : Option Nat) (reads : List PipeRead) (network : Network)
    (input : Json) (policy : Policy) (w : World) :
    ((capture max stopAt reads).totalBytes = (Captured.heardBytes stopAt reads).length ∧
      ∃ shown, (capture max stopAt reads).text =
          shown ++ mark (capture max stopAt reads).truncated ∧
        Shows max (Captured.heardBytes stopAt reads) shown (capture max stopAt reads).truncated) ∧
    (∀ response, Answered network input policy w response →
      (∃ e cause, HttpTool.gather policy.effectiveMaxOutputBytes [] response.body = .error e ∧
        ((execute network input policy).on w).1 = .error e ∧
        response.body.bytes = .error cause) ∨
      ∃ shown marked,
        ((execute network input policy).on w).1 =
          outcome response (head response.status ++ shown ++ mark marked) ∧
        (marked = false → ∃ bytes, response.body.bytes = .ok bytes) ∧
        ∀ bytes, response.body.bytes = .ok bytes →
          Shows policy.effectiveMaxOutputBytes bytes shown marked) ∧
    ∀ text, ((execute network input policy).on w).1 = .ok text →
      ∃ response, Answered network input policy w response := by
  refine ⟨Captured.shows_capture max stopAt reads, fun response h => ?_,
    fun text h => HttpTool.answered_of_execute h⟩
  rw [HttpTool.execute_of_answered h]
  exact HttpTool.answer_cases policy response

/-- A server that answers everything with one body. -/
def answering (body : Bytes) : Network := fun _ => pure (.ok ⟨200, [], [.chunk body]⟩)

/-- Ask for a page. -/
def asking : Json := .ofFields [("url", .str "http://a.test/")]

/-- A character of two bytes is shown whole under a cap of three, and a
page with it is an answer. -/
theorem output_shown_whole :
    (capture 3 none [.data [0xC3, 0xA9]]).text = "é" ∧
      ∃ response,
        Answered (answering [0xC3, 0xA9]) asking HttpTool.testHosts (.fresh ⟨[]⟩ []) response := by
  obtain ⟨⟨-, shown, htext, hshows⟩, -, hanswered⟩ :=
    output_shown 3 none [.data [0xC3, 0xA9]] (answering [0xC3, 0xA9]) asking HttpTool.testHosts
      (.fresh ⟨[]⟩ [])
  refine ⟨?_, ?_⟩
  · have hall : (capture 3 none [.data [0xC3, 0xA9]]).truncated = false := by decide
    have hshown := hshows.wellFormed hall "é" (by decide +kernel)
    rw [htext, hall, hshown]
    rfl
  · have hpage : (((execute (answering [0xC3, 0xA9]) asking HttpTool.testHosts).on
        (.fresh ⟨[]⟩ [])).1.toOption) = some (head 200 ++ "é") := by decide +kernel
    cases hrun : ((execute (answering [0xC3, 0xA9]) asking HttpTool.testHosts).on
        (.fresh ⟨[]⟩ [])).1 with
    | error e =>
      rw [hrun] at hpage
      cases hpage
    | ok text => exact hanswered text hrun

/-- **Where bytes are ill-formed, text may be missing without a mark**, of
output and of a body: one byte within the cap, three once decoded. -/
theorem capture_lost_unmarked :
    capture 1 none [.data [0xFF]] = ⟨"", 1, false, none⟩ ∧
      (answer { Policy.default with maxOutputBytes := 1 } ⟨200, [], [.chunk [0xFF]]⟩).toOption =
        some (head 200) ∧
      decodeLossy (Captured.heardBytes none [.data [0xFF]]) = "\uFFFD" := by
  decide +kernel

end Turnstile
