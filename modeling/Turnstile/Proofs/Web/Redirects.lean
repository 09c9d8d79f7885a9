import Turnstile.Proofs.Web.Hops
import Mathlib.Data.List.Chain
/-!
# Redirects — whole runs are held to the policy

From hops to runs, by induction on the redirects left to follow
(`exists_followed`). A run is described by its exchanges, every request
with its answer, so the statements hold of whatever the servers answer.
What the caller sent along is followed through all of them: headers stay
with the host they were meant for, and a body that was dropped does not
come back.
-/

namespace Turnstile

namespace HttpTool

open Network (Exchange)

variable {network : Network} {policy : Policy} {origin : Url} {hop : Hop}

/-! ## Whole runs -/

/-- The answer turns the request into one for a page without a body. -/
def TurnsToGet (e : Exchange) : Prop :=
  ∃ response, e.2 = .ok response ∧ becomesGet response.status e.1.method = true

/-- The answer redirects the request to a URL. -/
def LeadsTo (e : Exchange) (target : Url) : Prop :=
  ∃ response, e.2 = .ok response ∧ target? e.1.url response = some (.ok target)

/-- The requests of a run keep to the policy, each and together. -/
structure Confined (policy : Policy) (origin : Url) (es : List Exchange) : Prop where
  fits : ∀ e ∈ es, Fits policy e.1
  /-- After the first, a request is for the URL to which the one before it
  is redirected. It goes to the host that was asked for, or has no header
  but those of any request for that URL. -/
  led : es.IsChain fun e next => ∃ target, LeadsTo e target ∧ Seeks origin target next.1
  /-- A request that is turned into a plain one is followed by such. -/
  turned : es.IsChain fun e next => TurnsToGet e → next.1.method = "GET"
  /-- And from there on nothing carries a body. -/
  bodiless : es.Pairwise fun e later => TurnsToGet e → later.1.body = none

/-- A run from a hop on: what was sent, and how it ended. -/
structure Followed (network : Network) (policy : Policy) (origin : Url) (hop : Hop) (w : World)
    (run : Except ToolError HttpResponse × World) (sent : List HttpRequest) : Prop where
  recorded : run.2.requests = w.requests ++ sent
  confined : Confined policy origin (network.exchanges w sent)
  begins : ∀ r ∈ sent.head?, hop.request = .ok r
  bodiless : hop.body = none → ∀ r ∈ sent, r.body = none
  /-- A response is the outcome only where it answers the last request and
  redirects nowhere. -/
  ends : ∀ response, run.1 = .ok response →
    ∃ e ∈ (network.exchanges w sent).getLast?, e.2 = .ok response ∧ target? e.1.url response = none

/-- A run that has sent nothing. -/
theorem followed_nil (w : World) (e : ToolError) :
    Followed network policy origin hop w (.error e, w) [] where
  recorded := (List.append_nil _).symm
  confined := ⟨fun _ h => (nomatch h), .nil, .nil, .nil⟩
  begins _ h := nomatch h
  bodiless _ _ h := nomatch h
  ends _ h := nomatch h

/-- A run that has sent one request. -/
theorem followed_singleton (hn : network.KeepsRecord) (hp : hop.Permitted policy origin)
    {r : HttpRequest} (hr : hop.request = .ok r) {w : World}
    {result : Except ToolError HttpResponse}
    (hend : ∀ response, result = .ok response →
      ((network.send r).on w).1 = .ok response ∧ target? hop.url response = none) :
    Followed network policy origin hop w (result, ((network.send r).on w).2) [r] := by
  obtain ⟨-, hurl, hbody, -⟩ := Hop.request_eq_ok hr
  refine ⟨Network.requests_send hn r w,
    ⟨fun e he => ?_, .singleton _, .singleton _, List.pairwise_singleton ..⟩,
    fun r' hr' => ?_, fun hnone r' hr' => ?_, fun response h => ?_⟩
  · rw [List.mem_singleton.mp (Network.mem_of_mem_exchanges he)]
    exact hp.fits hr
  · cases hr'
    exact hr
  · rw [List.mem_singleton.mp hr', hbody, hnone]
  · refine ⟨(r, ((network.send r).on w).1), rfl, (hend response h).1, ?_⟩
    rw [hurl]
    exact (hend response h).2

/-- **A request that is redirected goes in front of the run it is
redirected to.** -/
theorem Followed.cons (hn : network.KeepsRecord) (hp : hop.Permitted policy origin)
    {r : HttpRequest} (hr : hop.request = .ok r) {w : World} {response : HttpResponse}
    {target : Url} (hanswer : ((network.send r).on w).1 = .ok response)
    (htarget : target? hop.url response = some (.ok target))
    (hnext : (hop.redirected response.status target).Permitted policy origin)
    {run : Except ToolError HttpResponse × World} {sent : List HttpRequest}
    (h : Followed network policy origin (hop.redirected response.status target)
      ((network.send r).on w).2 run sent) :
    Followed network policy origin hop w run (r :: sent) := by
  obtain ⟨hmethod, hurl, hbody, -⟩ := Hop.request_eq_ok hr
  -- what the answer makes of the hop after this one
  have hget (hturns : TurnsToGet (r, ((network.send r).on w).1)) :
      becomesGet response.status hop.method = true := by
    obtain ⟨response', hresponse, hturns⟩ := hturns
    rw [hanswer, Except.ok.injEq] at hresponse
    rwa [hresponse, ← hmethod]
  have hleads : LeadsTo (r, ((network.send r).on w).1) target :=
    ⟨response, hanswer, by rw [hurl]; exact htarget⟩
  have hfirst {next : Exchange}
      (hmem : next ∈ (network.exchanges ((network.send r).on w).2 sent).head?) :
      (hop.redirected response.status target).request = .ok next.1 := by
    refine h.begins next.1 ?_
    rw [← Network.map_fst_exchanges ((network.send r).on w).2 sent, List.head?_map]
    exact Option.mem_map_of_mem _ hmem
  refine ⟨?_, ⟨?_, ?_, ?_, ?_⟩, ?_, ?_, ?_⟩
  · rw [h.recorded, Network.requests_send hn, List.append_assoc]
    rfl
  · rintro e (_ | ⟨_, he⟩)
    · exact hp.fits hr
    · exact h.confined.fits e he
  · exact List.isChain_cons.mpr
      ⟨fun next hmem => ⟨target, hleads, hnext.seeks (hfirst hmem)⟩, h.confined.led⟩
  · refine List.isChain_cons.mpr ⟨fun next hmem hturns => ?_, h.confined.turned⟩
    rw [(Hop.request_eq_ok (hfirst hmem)).1, Hop.redirected_method, if_pos (hget hturns)]
  · refine List.pairwise_cons.mpr ⟨fun later hlater hturns => ?_, h.confined.bodiless⟩
    refine h.bodiless ?_ later.1 (Network.mem_of_mem_exchanges hlater)
    rw [Hop.redirected_body, if_pos (hget hturns)]
  · intro r' hr'
    cases hr'
    exact hr
  · rintro hnone r' (_ | ⟨_, hr'⟩)
    · rw [hbody, hnone]
    · refine h.bodiless ?_ r' hr'
      rw [Hop.redirected_body, hnone, ite_self]
  · intro final hfinal
    obtain ⟨e, he, hrest⟩ := h.ends final hfinal
    refine ⟨e, ?_, hrest⟩
    rw [Network.exchanges_cons, List.getLast?_cons, Option.mem_def.mp he]
    rfl

/-- **Whatever the servers answer, a run from a permitted hop keeps to the
policy**, and sends one request more than it may follow redirects at the
most. -/
theorem exists_followed (hn : network.KeepsRecord) (left : Nat) (hop : Hop)
    (hp : hop.Permitted policy origin) (w : World) :
    ∃ sent, sent.length ≤ left + 1 ∧
      Followed network policy origin hop w ((follow network policy left hop).on w) sent := by
  induction left generalizing hop w with
  | zero =>
    rcases follow_cases network policy 0 hop w with
      ⟨e, heq⟩ | ⟨r, hr, ⟨result, heq, hend⟩ | ⟨before, -, -, hleft, -⟩⟩
    · exact ⟨[], Nat.zero_le _, heq ▸ followed_nil w e⟩
    · exact ⟨[r], Nat.le_refl _, heq ▸ followed_singleton hn hp hr hend⟩
    · cases hleft
  | succ left ih =>
    rcases follow_cases network policy (left + 1) hop w with
      ⟨e, heq⟩ | ⟨r, hr, ⟨result, heq, hend⟩ |
        ⟨before, response, target, hleft, hanswer, htarget, hcheck, heq⟩⟩
    · exact ⟨[], Nat.zero_le _, heq ▸ followed_nil w e⟩
    · exact ⟨[r], by simp, heq ▸ followed_singleton hn hp hr hend⟩
    · cases hleft
      have hnext : (hop.redirected response.status target).Permitted policy origin :=
        hp.redirected hcheck
      obtain ⟨sent, hlength, hfollowed⟩ :=
        ih (hop.redirected response.status target) hnext ((network.send r).on w).2
      refine ⟨r :: sent, Nat.succ_le_succ hlength, ?_⟩
      rw [heq]
      exact hfollowed.cons hn hp hr hanswer htarget hnext

/-- An input is turned down before anything is done; or the first hop is
made of it and followed, and a text is the outcome only of a response. -/
theorem execute_cases (network : Network) (input : Json) (policy : Policy) (w : World) :
    (∃ e, (execute network input policy).on w = (.error e, w)) ∨
    ∃ args hop, Args.reader Source.value (Doc.ofJson input) = .ok args ∧
      firstHop args policy = .ok hop ∧
      ((execute network input policy).on w).2 =
        ((follow network policy redirectLimit hop).on w).2 ∧
      ∀ text, ((execute network input policy).on w).1 = .ok text →
        ∃ response, ((follow network policy redirectLimit hop).on w).1 = .ok response := by
  rw [execute, Act.on_bind, Tool.input]
  cases Args.reader Source.value (Doc.ofJson input) with
  | error mismatch => exact Or.inl ⟨.invalidInput mismatch.message, rfl⟩
  | ok args =>
    rw [Act.on_pure]
    dsimp only
    rw [Act.on_bind, Act.on_ofExcept]
    cases hfirst : firstHop args policy with
    | error e => exact Or.inl ⟨e, rfl⟩
    | ok hop =>
      refine Or.inr ⟨args, hop, rfl, hfirst, ?_⟩
      dsimp only
      rw [Act.on_bind]
      rcases (follow network policy redirectLimit hop).on w with ⟨e | response, after⟩
      · exact ⟨rfl, fun _ h => nomatch h⟩
      · refine ⟨?_, fun _ _ => ⟨response, rfl⟩⟩
        by_cases hc : after.isCancelled = true
        · simp [hc]
        · simp [hc]

/-- **Redirects are confined.** Whatever the input, the policy and the
answers of the servers, a run sends no more requests than one and the
redirects it may follow, and nothing where the network is denied. All of
them keep to the policy: they are HTTP requests to permitted hosts, the
first for the URL that was asked for and each other for the one it was
redirected to; headers of the caller go to the host that was asked for, and
no body is sent once a redirect has made the request a plain one. The run
gives a text only for a last answer that redirects nowhere. -/
theorem execute_confined (network : Network) (hn : network.KeepsRecord) (input : Json)
    (policy : Policy) (w : World) :
    ∃ sent : List HttpRequest,
      ((execute network input policy).on w).2.requests = w.requests ++ sent ∧
      sent.length ≤ redirectLimit + 1 ∧
      (policy.network = .deny → sent = []) ∧
      (sent ≠ [] → ∃ args origin, Args.reader Source.value (Doc.ofJson input) = .ok args ∧
        Url.parse args.url = .ok origin ∧ (∀ r ∈ sent.head?, Seeks origin origin r) ∧
        Confined policy origin (network.exchanges w sent)) ∧
      ∀ text, ((execute network input policy).on w).1 = .ok text →
        ∃ e ∈ (network.exchanges w sent).getLast?, ∃ response, e.2 = .ok response ∧
          target? e.1.url response = none := by
  rcases execute_cases network input policy w with
    ⟨e, heq⟩ | ⟨args, hop, hargs, hfirst, hworld, htext⟩
  · rw [heq]
    exact ⟨[], (List.append_nil _).symm, Nat.zero_le _, fun _ => rfl, fun h => absurd rfl h,
      fun _ h => nomatch h⟩
  · obtain ⟨hparse, hp⟩ := firstHop_permitted hfirst
    obtain ⟨sent, hlength, hfollowed⟩ := exists_followed hn redirectLimit hop hp w
    refine ⟨sent, ?_, hlength, fun hdeny => ?_,
      fun _ => ⟨args, hop.url, hargs, hparse, fun r hr => hp.seeks (hfollowed.begins r hr),
        hfollowed.confined⟩, fun text h => ?_⟩
    · rw [hworld, hfollowed.recorded]
    · -- a hop that may be sent has a permitted host, and here there is none
      obtain ⟨host, -, hallowed⟩ := hp.host
      rw [Policy.hostAllowed, hdeny] at hallowed
      cases hallowed
    · obtain ⟨response, hresponse⟩ := htext text h
      obtain ⟨e, he, hanswer, htarget⟩ := hfollowed.ends response hresponse
      exact ⟨e, he, response, hanswer, htarget⟩

/-- Two hosts that send whoever asks to each other and back. -/
def bouncing : Network := fun request =>
  let found (status : Nat) (location : String) : HttpResponse :=
    ⟨status, [("location", location)], []⟩
  pure (.ok
    (if request.url.path = .segments ["in"] then found 303 "http://b.test/out"
     else if request.url.path = .segments ["out"] then found 302 "http://a.test/back"
     else ⟨200, [], []⟩))

/-- Post something to the first host, with a header. -/
def posting : Json := .ofFields
  [("url", .str "http://a.test/in"), ("method", .str "POST"), ("body", .str "text"),
    ("headers", .ofFields [("x-key", .str "key")])]

/-- Both hosts are permitted. -/
def testHosts : Policy :=
  { Policy.default with network := .allowList, allowedHosts := ["*.test"] }

/-- Posted to one host, redirected to the other and back: the header and
the body go out once, with the first request. -/
theorem execute_confined_bouncing :
    bouncing.KeepsRecord ∧
    ∃ origin sent, Url.parse "http://a.test/in" = .ok origin ∧
      ((execute bouncing posting testHosts).on (.fresh ⟨[]⟩ [])).2.requests = sent ∧
      Confined testHosts origin (bouncing.exchanges (.fresh ⟨[]⟩ []) sent) ∧
      sent.map (fun r => (r.method, r.url.hostText?, r.headers, r.body)) =
        [("POST", some "a.test", [("user-agent", userAgent), ("x-key", "key")], some "text"),
          ("GET", some "b.test", [("user-agent", userAgent)], none),
          ("GET", some "a.test", [("user-agent", userAgent)], none)] := by
  have hkeeps : bouncing.KeepsRecord := fun _ _ => rfl
  have hrequests : ((execute bouncing posting testHosts).on (.fresh ⟨[]⟩ [])).2.requests.map
      (fun r => (r.method, r.url.hostText?, r.headers, r.body)) =
        [("POST", some "a.test", [("user-agent", userAgent), ("x-key", "key")], some "text"),
          ("GET", some "b.test", [("user-agent", userAgent)], none),
          ("GET", some "a.test", [("user-agent", userAgent)], none)] := by decide +kernel
  obtain ⟨sent, hsent, -, -, hconfined, -⟩ :=
    execute_confined bouncing hkeeps posting testHosts (.fresh ⟨[]⟩ [])
  change _ = sent at hsent
  rw [hsent] at hrequests
  obtain ⟨args, origin, hargs, hparse, -, hconfined⟩ := hconfined fun hnone => by
    rw [hnone] at hrequests
    cases hrequests
  have hurl : (Args.reader Source.value (Doc.ofJson posting)).map (·.url) =
      .ok "http://a.test/in" := by decide +kernel
  rw [hargs, Except.map, Except.ok.injEq] at hurl
  rw [hurl] at hparse
  exact ⟨hkeeps, origin, sent, hparse, hsent, hconfined, hrequests⟩

end HttpTool

end Turnstile
