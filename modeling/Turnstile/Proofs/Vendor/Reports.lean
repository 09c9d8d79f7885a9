import Turnstile.Proofs.Vendor.Anthropic.Agreement
import Turnstile.Proofs.Vendor.Endings
/-!
# Reports — the usage a stream ends with

Counts are reported anywhere in a stream, one or both at a time, and a
nought tells nothing. What a line says of usage and of the end (`News`) is
read off it before any normalizer is asked, and the reports that count are
those before the first line that ends the stream (`News.reports`). A
handler heeds the news (`Handler.Heeds`): a report is merged into what it
has, nothing else touches that, and an ending that is no failure tells it.
So the usage at the end is the reports merged, by induction over the
events, and for either count the last one that is not nought
(`Vendor.done_mem_run_iff`).
-/

namespace Turnstile

open ChatEvent (Quiet)

/-- What an event says of the usage and of the end of its stream. -/
inductive News where
  | nothing
  | usage (report : Usage)
  /-- The stream has ended well. -/
  | finish
  /-- The stream has ended in an error. -/
  | failure
  deriving DecidableEq, Repr, Inhabited

namespace News

/-- The stream goes on after it. -/
def goesOn : News → Bool
  | .nothing | .usage _ => true
  | .finish | .failure => false

/-- What it reports. -/
def report? : News → Option Usage
  | .usage report => some report
  | _ => none

/-- The reports before the end. -/
def reports (news : List News) : List Usage := (news.takeWhile goesOn).filterMap report?

/-- What ends the stream is an error. Where nothing does the body ends it,
and that is none. -/
def Fails (news : List News) : Prop := (news.dropWhile goesOn).head? = some .failure

variable {n : News} {news : List News}

theorem reports_cons (h : n.goesOn = true) :
    reports (n :: news) = n.report?.toList ++ reports news := by
  rw [reports, List.takeWhile_cons_of_pos h]
  cases hreport : n.report? with
  | none => rw [List.filterMap_cons_none hreport]; rfl
  | some report => rw [List.filterMap_cons_some hreport]; rfl

theorem reports_cons_of_ends (h : n.goesOn = false) : reports (n :: news) = [] := by
  rw [reports, List.takeWhile_cons_of_neg (by simp [h])]
  rfl

theorem fails_cons (h : n.goesOn = true) : Fails (n :: news) ↔ Fails news := by
  rw [Fails, Fails, List.dropWhile_cons_of_pos h]

theorem fails_cons_of_ends (h : n.goesOn = false) : Fails (n :: news) ↔ n = .failure := by
  rw [Fails, List.dropWhile_cons_of_neg (by simp [h]), List.head?_cons, Option.some.injEq]

/-- The news of lines, where one that carries no event says nothing. -/
def ofLines {ε : Type} (event? : String → Option ε) (news : ε → News) (lines : List String) :
    List News :=
  lines.map fun line => ((event? line).map news).getD .nothing

/-- Lines without an event are no news. -/
theorem ofLines_eq {ε : Type} (event? : String → Option ε) (news : ε → News)
    (lines : List String) :
    reports (ofLines event? news lines) = reports ((lines.filterMap event?).map news) ∧
      (Fails (ofLines event? news lines) ↔ Fails ((lines.filterMap event?).map news)) := by
  induction lines with
  | nil => exact ⟨rfl, Iff.rfl⟩
  | cons line lines ih =>
    obtain ⟨hreports, hfails⟩ := ih
    have hcons : ofLines event? news (line :: lines) =
        ((event? line).map news).getD .nothing :: ofLines event? news lines := rfl
    rw [hcons]
    cases hline : event? line with
    | none =>
      have hgoes : News.nothing.goesOn = true := rfl
      rw [List.filterMap_cons_none hline]
      exact ⟨(reports_cons hgoes).trans hreports, (fails_cons hgoes).trans hfails⟩
    | some e =>
      rw [List.filterMap_cons_some hline, List.map_cons, Option.map_some, Option.getD_some]
      by_cases hgoes : (news e).goesOn = true
      · rw [reports_cons hgoes, reports_cons hgoes, fails_cons hgoes, fails_cons hgoes, hreports]
        exact ⟨rfl, hfails⟩
      · have hends : (news e).goesOn = false := by simpa using hgoes
        rw [reports_cons_of_ends hends, reports_cons_of_ends hends, fails_cons_of_ends hends,
          fails_cons_of_ends hends]
        exact ⟨rfl, Iff.rfl⟩

end News

/-! ## Merging -/

namespace Usage

/-- **Reports may be merged in groups**, and the groups then. -/
theorem foldl_merge_flatten (groups : List (List Usage)) :
    groups.flatten.foldl merge .zero = (groups.map (·.foldl merge .zero)).foldl merge .zero := by
  have hfrom (u : Usage) (reports : List Usage) :
      reports.foldl merge u = u.merge (reports.foldl merge .zero) := by
    induction reports using List.reverseRecOn with
    | nil => rfl
    | append_singleton reports report ih =>
      rw [List.foldl_concat, List.foldl_concat, ih, merge_assoc]
  induction groups using List.reverseRecOn with
  | nil => rfl
  | append_singleton groups group ih =>
    rw [List.flatten_append, List.flatten_singleton, List.foldl_append, ih, List.map_append,
      List.map_singleton, List.foldl_concat]
    exact hfrom _ group

end Usage

/-! ## Handlers -/

namespace Handler

variable {σ ε : Type} {h : Handler σ ε} {usage : σ → Usage} {news : ε → News} {s : σ}

/-- What is done about an event, going by its news. -/
def Follows (h : Handler σ ε) (usage : σ → Usage) (s : σ) (n : News)
    (next : σ × List ChatEvent) : Prop :=
  match n with
  | .nothing => h.finished next.1 = false ∧ usage next.1 = usage s ∧ Quiet next.2
  | .usage report =>
    h.finished next.1 = false ∧ usage next.1 = (usage s).merge report ∧ Quiet next.2
  | .finish => h.finished next.1 = true ∧ ∀ u, .done u ∈ next.2 ↔ u = usage s
  | .failure => h.finished next.1 = true ∧ ∀ u, .done u ∉ next.2

/-- The handler heeds the news: what it has of usage is what was
reported. -/
structure Heeds (h : Handler σ ε) (usage : σ → Usage) (news : ε → News) : Prop where
  handle : ∀ s e, h.finished s = false → h.Follows usage s (news e) (h.handle s e)
  close : ∀ s, h.finished s = false → ∀ u, .done u ∈ h.close s ↔ u = usage s

theorem done_not_mem_of_quiet {es : List ChatEvent} (hes : Quiet es) (u : Usage) :
    .done u ∉ es := by
  intro hmem
  have hgoes := hes _ hmem
  cases hgoes

/-- **The end tells the reports merged**, unless it is an error. -/
theorem Heeds.done_mem_follow_iff (hh : h.Heeds usage news) (hs : h.finished s = false)
    (es : List ε) (u : Usage) :
    .done u ∈ h.follow s es ↔
      ¬ News.Fails (es.map news) ∧
        u = (News.reports (es.map news)).foldl Usage.merge (usage s) := by
  induction es generalizing s with
  | nil =>
    have hfine : ¬ News.Fails [] := by
      rw [News.Fails]
      simp
    rw [follow, onEnd_of_open hs, hh.close s hs]
    exact ⟨fun hu => ⟨hfine, hu⟩, fun hu => hu.2⟩
  | cons e es ih =>
    have hnext := hh.handle s e hs
    rw [follow_cons hs, List.mem_append, List.map_cons]
    -- by what the event says: the stream goes on after the first two
    cases hnews : news e with
    | nothing =>
      rw [hnews] at hnext
      obtain ⟨hopen, husage, hquiet⟩ := hnext
      have hgoes : News.nothing.goesOn = true := rfl
      rw [or_iff_right (done_not_mem_of_quiet hquiet u), ih hopen, husage, News.fails_cons hgoes,
        News.reports_cons hgoes]
      rfl
    | usage report =>
      rw [hnews] at hnext
      obtain ⟨hopen, husage, hquiet⟩ := hnext
      have hgoes : (News.usage report).goesOn = true := rfl
      rw [or_iff_right (done_not_mem_of_quiet hquiet u), ih hopen, husage, News.fails_cons hgoes,
        News.reports_cons hgoes]
      rfl
    | finish =>
      rw [hnews] at hnext
      obtain ⟨hfinished, htold⟩ := hnext
      have hends : News.finish.goesOn = false := rfl
      rw [follow_of_finished hfinished, News.fails_cons_of_ends hends,
        News.reports_cons_of_ends hends, htold]
      simp
    | failure =>
      rw [hnews] at hnext
      obtain ⟨hfinished, htold⟩ := hnext
      have hends : News.failure.goesOn = false := rfl
      rw [follow_of_finished hfinished, News.fails_cons_of_ends hends]
      simp [htold u]

/-- So it does at the end of a run over lines. -/
theorem Heeds.done_mem_run_iff (hh : h.Heeds usage news) (event? : String → Option ε)
    {start : σ} (hs : h.finished start = false) (lines : List String) (u : Usage) :
    .done u ∈ (h.normalizer event? start).run lines ↔
      ¬ News.Fails (News.ofLines event? news lines) ∧
        u = (News.reports (News.ofLines event? news lines)).foldl Usage.merge (usage start) := by
  obtain ⟨hreports, hfails⟩ := News.ofLines_eq event? news lines
  have hrun : (h.normalizer event? start).run lines = h.follow start (lines.filterMap event?) :=
    h.runFrom_eq_follow event? start start lines
  rw [hrun, hreports, hfails]
  exact hh.done_mem_follow_iff hs _ u

end Handler

/-- After calls the usage is told, and nothing else. -/
theorem ChatEvent.done_mem_calls_iff (calls : List ToolCall) (u v : Usage) :
    .done u ∈ calls.map ChatEvent.toolCall ++ [.done v] ↔ u = v := by
  simp

/-! ## Anthropic -/

namespace Anthropic

/-- The start of a message and its later changes report usage. -/
def Event.news : Event → News
  | .messageStart report | .messageDelta report => .usage report
  | .messageStop => .finish
  | .error .. => .failure
  | .blockStart .. | .blockDelta .. | .blockStop _ | .ping | .unknown => .nothing

theorem heeds_handler : handler.Heeds Progress.usage Event.news where
  handle p e hp := by
    cases e with
    | messageStart report | messageDelta report => exact ⟨hp, rfl, ChatEvent.quiet_nil⟩
    | blockStart index block =>
      cases block with
      | text text => exact ⟨hp, rfl, Progress.quiet_tokens text⟩
      | toolUse id name input | unknown => exact ⟨hp, rfl, ChatEvent.quiet_nil⟩
    | blockDelta index delta =>
      cases delta with
      | text text => exact ⟨hp, rfl, Progress.quiet_tokens text⟩
      | inputJson fragment | unknown => exact ⟨hp, rfl, ChatEvent.quiet_nil⟩
    | blockStop index => exact ⟨hp, rfl, ChatEvent.quiet_calls _ _⟩
    | messageStop => exact ⟨rfl, fun u => ChatEvent.done_mem_calls_iff _ u p.usage⟩
    | error kind message => exact ⟨rfl, fun u => by simp [handler, Progress.handle]⟩
    | ping | unknown => exact ⟨hp, rfl, ChatEvent.quiet_nil⟩
  close p _ u := ChatEvent.done_mem_calls_iff _ u p.usage

end Anthropic

/-! ## OpenAI -/

namespace OpenAI

/-- A chunk may report usage, whatever choices it has. -/
def Chunk.news (c : Chunk) : News :=
  match c.error, c.usage with
  | some _, _ => .failure
  | none, some report => .usage report
  | none, none => .nothing

/-- What the payload of a line says. -/
def Payload.news : Payload → News
  | .done => .finish
  | .chunk c => c.news

theorem heeds_handler : handler.Heeds Progress.usage Payload.news where
  handle p payload hp := by
    cases payload with
    | done => exact ⟨rfl, fun u => ChatEvent.done_mem_calls_iff _ u p.usage⟩
    | chunk c =>
      have hhandle : handler.handle p (.chunk c) = p.handle c := rfl
      rw [hhandle, Progress.handle, Payload.news, Chunk.news]
      cases c.error with
      | some message => exact ⟨rfl, fun u => by simp⟩
      | none =>
        cases c.usage with
        | some report =>
          obtain ⟨hfinished, husage⟩ := Progress.handleChoices_same
            { p with usage := p.usage.merge report } c.choices
          exact ⟨hfinished.trans hp, husage, Progress.quiet_handleChoices _ _⟩
        | none =>
          obtain ⟨hfinished, husage⟩ := Progress.handleChoices_same p c.choices
          exact ⟨hfinished.trans hp, husage, Progress.quiet_handleChoices _ _⟩
  close p _ u := ChatEvent.done_mem_calls_iff _ u p.usage

end OpenAI

/-! ## Gemini -/

namespace Gemini

/-- A response may report usage, whatever candidates it has. -/
def Response.news (r : Response) : News :=
  match r.error, r.usage with
  | some _, _ => .failure
  | none, some report => .usage report
  | none, none => .nothing

theorem heeds_handler : handler.Heeds Progress.usage Response.news where
  handle p r hp := by
    have hhandle : handler.handle p r = p.handle r := rfl
    rw [hhandle, Response.news]
    cases herror : r.error with
    | some error =>
      rw [Progress.handle, herror]
      exact ⟨rfl, fun u => by simp⟩
    | none =>
      have hfinished := (p.handleParts_same (Progress.partsOf r)).1.trans hp
      rw [Progress.handle_eq herror]
      cases r.usage with
      | some report => exact ⟨hfinished, rfl, p.quiet_handleParts _⟩
      | none => exact ⟨hfinished, rfl, p.quiet_handleParts _⟩
  close p _ u := by simp [handler]

end Gemini

/-! ## Every vendor -/

namespace Vendor

/-- What lines of a vendor's stream say, line by line. -/
def newsOf (kind : VendorKind) (lines : List String) : List News :=
  match kind with
  | .anthropic => News.ofLines Anthropic.lineEvent? Anthropic.Event.news lines
  | .openAI | .compat => News.ofLines OpenAI.linePayload? OpenAI.Payload.news lines
  | .gemini => News.ofLines Gemini.lineResponse? Gemini.Response.news lines

/-- **A stream that ends well ends with its reports merged.** -/
theorem done_mem_run_iff (kind : VendorKind) (lines : List String) (u : Usage) :
    .done u ∈ (normalizer kind).run lines ↔
      ¬ News.Fails (newsOf kind lines) ∧
        u = (News.reports (newsOf kind lines)).foldl Usage.merge .zero := by
  cases kind with
  | anthropic =>
    rw [normalizer, Anthropic.normalizer_eq]
    exact Anthropic.heeds_handler.done_mem_run_iff _ rfl lines u
  | openAI | compat =>
    rw [normalizer, OpenAI.normalizer_eq]
    exact OpenAI.heeds_handler.done_mem_run_iff _ rfl lines u
  | gemini =>
    rw [normalizer, Gemini.normalizer_eq]
    exact Gemini.heeds_handler.done_mem_run_iff _ rfl lines u

/-- **Usage is merged and never erased.** A stream ends well exactly if
what ends it is no error, and it then tells, for either count, the last
that is not nought among the reports before the end, wherever they stand;
or nought, if there is none. And reports may be grouped as one likes:
merging is associative, and a report of nothing makes no difference. -/
theorem usage_merged (kind : VendorKind) :
    (∀ lines u, .done u ∈ (normalizer kind).run lines ↔
      ¬ News.Fails (newsOf kind lines) ∧
        u.input = Anthropic.lastNonzero ((News.reports (newsOf kind lines)).map (·.input)) ∧
        u.output = Anthropic.lastNonzero ((News.reports (newsOf kind lines)).map (·.output))) ∧
    (∀ u v w : Usage, (u.merge v).merge w = u.merge (v.merge w)) ∧
    (∀ u : Usage, Usage.zero.merge u = u ∧ u.merge .zero = u) ∧
    ∀ groups : List (List Usage),
      groups.flatten.foldl Usage.merge .zero =
        (groups.map (·.foldl Usage.merge .zero)).foldl Usage.merge .zero := by
  refine ⟨fun lines u => ?_, Usage.merge_assoc, fun u => ⟨u.zero_merge, u.merge_zero⟩,
    Usage.foldl_merge_flatten⟩
  obtain ⟨input, output⟩ := u
  rw [done_mem_run_iff, Anthropic.foldl_merge, Usage.mk.injEq]

end Vendor

end Turnstile
