import Turnstile.Tool.Http
/-!
# Hops — one request and where it is redirected

The servers are an adversary: each answer may send the tool anywhere, as
often as it follows. What one hop can do is said once (`follow_cases`): it
sends nothing, or its request and no other, or its request and then what a
hop sends that the policy has let through. That hop keeps to the policy if
this one does (`Hop.Permitted.redirected`), and its request does as well
(`Hop.Permitted.fits`).
-/

namespace Turnstile

namespace Network

/-- The servers leave the record of what was sent as it is. -/
def KeepsRecord (network : Network) : Prop :=
  ∀ request w, (network request w).2.requests = w.requests

/-- A request and what came of it. -/
abbrev Exchange := HttpRequest × Except String HttpResponse

/-- Requests sent in turn, each with what came of it. -/
def exchanges (network : Network) (w : World) : List HttpRequest → List Exchange
  | [] => []
  | request :: rest =>
    let (answer, after) := (network.send request).on w
    (request, answer) :: network.exchanges after rest

variable {network : Network}

theorem exchanges_cons (w : World) (request : HttpRequest) (rest : List HttpRequest) :
    network.exchanges w (request :: rest) =
      (request, ((network.send request).on w).1) ::
        network.exchanges ((network.send request).on w).2 rest :=
  rfl

theorem requests_send (h : network.KeepsRecord) (request : HttpRequest) (w : World) :
    ((network.send request).on w).2.requests = w.requests ++ [request] :=
  h request { w with requests := w.requests ++ [request] }

@[simp] theorem map_fst_exchanges (w : World) (sent : List HttpRequest) :
    (network.exchanges w sent).map (·.1) = sent := by
  induction sent generalizing w with
  | nil => rfl
  | cons request rest ih => rw [exchanges_cons, List.map_cons, ih]

theorem mem_of_mem_exchanges {w : World} {sent : List HttpRequest} {e : Exchange}
    (h : e ∈ network.exchanges w sent) : e.1 ∈ sent := by
  rw [← map_fst_exchanges w sent]
  exact List.mem_map_of_mem h

end Network

namespace HttpTool

open Network (Exchange)

variable {network : Network} {policy : Policy} {origin : Url} {hop : Hop}

/-! ## What one hop does -/

/-- The request a hop stands for. -/
def Hop.request (hop : Hop) : Except String HttpRequest :=
  HttpRequest.prepare hop.method hop.url (("user-agent", userAgent) :: hop.headers) hop.body

/-- The headers that a request to a URL has without the caller. -/
def ownHeaders (url : Url) : List (String × String) :=
  HttpRequest.userHeader url ++ [("user-agent", userAgent)]

/-- The parts of a request are those of its hop. -/
theorem Hop.request_eq_ok {r : HttpRequest} (h : hop.request = .ok r) :
    r.method = hop.method ∧ r.url = hop.url.withoutUser ∧ r.body = hop.body ∧
      (hop.headers = [] → r.headers = ownHeaders hop.url) := by
  obtain rfl := HttpRequest.prepare_eq_ok h
  refine ⟨rfl, rfl, rfl, fun hnone => ?_⟩
  have hlower : Text.asciiLower "user-agent" = "user-agent" := by cbv
  simp only [hnone, List.map_cons, List.map_nil, hlower, ownHeaders]

theorem Hop.redirected_method (status : Nat) (target : Url) :
    (hop.redirected status target).method =
      if becomesGet status hop.method then "GET" else hop.method :=
  rfl

theorem Hop.redirected_body (status : Nat) (target : Url) :
    (hop.redirected status target).body =
      if becomesGet status hop.method then none else hop.body :=
  rfl

theorem send_on (hop : Hop) (w : World) :
    (send network hop).on w =
      if w.isCancelled then (.error .cancelled, w)
      else
        match hop.request with
        | .error text => (.error (.invalidInput text), w)
        | .ok r =>
          (((network.send r).on w).1.mapError fun text => .execution ("Request failed: " ++ text),
            ((network.send r).on w).2) := by
  rw [send, Act.on_bind, Act.on_look]
  by_cases hc : w.isCancelled = true
  · simp [hc]
  · cases hr : hop.request with
    | error text =>
      rw [Hop.request] at hr
      simp [hc, hr]
    | ok r =>
      rw [Hop.request] at hr
      simp [hc, hr]

theorem follow_on (left : Nat) (hop : Hop) (w : World) :
    (follow network policy left hop).on w =
      match (send network hop).on w with
      | (.error e, after) => (.error e, after)
      | (.ok response, after) =>
        match target? hop.url response, left with
        | none, _ => (.ok response, after)
        | some (.error e), _ => (.error e, after)
        | some (.ok _), 0 =>
          (.error (.execution ("too many redirects (limit " ++ toString redirectLimit ++ ")")),
            after)
        | some (.ok target), left + 1 =>
          match checkTarget policy target with
          | .error e => (.error e, after)
          | .ok _ =>
            (follow network policy left (hop.redirected response.status target)).on after := by
  rw [follow.eq_def, Act.on_bind]
  rcases (send network hop).on w with ⟨e | response, after⟩
  · rfl
  dsimp only
  rcases target? hop.url response with - | e | target
  · rfl
  · rfl
  · dsimp only
    rw [Act.on_bind, Act.on_ofExcept]
    cases left with
    | zero => rfl
    | succ left =>
      dsimp only
      rw [Act.on_bind, Act.on_ofExcept]
      cases checkTarget policy target with
      | error e => rfl
      | ok _ => rfl

/-- **What one hop can do.** Nothing is sent; or its request is, and that
is all, a response being the outcome only if it redirects nowhere; or its
request is sent and redirected to a place the policy allows, and the run
goes on from there with one redirect less to follow. -/
theorem follow_cases (network : Network) (policy : Policy) (left : Nat) (hop : Hop) (w : World) :
    (∃ e, (follow network policy left hop).on w = (.error e, w)) ∨
    ∃ r, hop.request = .ok r ∧
      ((∃ result, (follow network policy left hop).on w = (result, ((network.send r).on w).2) ∧
          ∀ response, result = .ok response →
            ((network.send r).on w).1 = .ok response ∧ target? hop.url response = none) ∨
        ∃ before response target, left = before + 1 ∧
          ((network.send r).on w).1 = .ok response ∧
          target? hop.url response = some (.ok target) ∧ checkTarget policy target = .ok () ∧
          (follow network policy left hop).on w =
            (follow network policy before (hop.redirected response.status target)).on
              ((network.send r).on w).2) := by
  rw [follow_on, send_on]
  by_cases hc : w.isCancelled = true
  · rw [if_pos hc]
    exact Or.inl ⟨.cancelled, rfl⟩
  rw [if_neg hc]
  cases hr : hop.request with
  | error text => exact Or.inl ⟨.invalidInput text, rfl⟩
  | ok r =>
    refine Or.inr ⟨r, rfl, ?_⟩
    dsimp only
    rcases (network.send r).on w with ⟨text | response, after⟩
    · exact Or.inl ⟨_, rfl, fun _ h => nomatch h⟩
    dsimp only [Except.mapError]
    rcases ht : target? hop.url response with - | e | target
    · refine Or.inl ⟨.ok response, rfl, fun _ h => ?_⟩
      cases h
      exact ⟨rfl, ht⟩
    · exact Or.inl ⟨.error e, rfl, fun _ h => nomatch h⟩
    · cases left with
      | zero => exact Or.inl ⟨_, rfl, fun _ h => nomatch h⟩
      | succ before =>
        cases hcheck : checkTarget policy target with
        | error e =>
          refine Or.inl ⟨.error e, ?_, fun _ h => nomatch h⟩
          simp only [hcheck]
        | ok _ =>
          refine Or.inr ⟨before, response, target, rfl, rfl, ht, hcheck, ?_⟩
          simp only [hcheck]

/-- What a server sends that redirects nowhere is the response in the end. -/
theorem follow_of_stays {left : Nat} {w : World} {r : HttpRequest} {response : HttpResponse}
    (hw : w.isCancelled = false) (hr : hop.request = .ok r)
    (hsend : ((network.send r).on w).1 = .ok response)
    (hstays : target? hop.url response = none) :
    (follow network policy left hop).on w = (.ok response, ((network.send r).on w).2) := by
  have hsent : (send network hop).on w = (.ok response, ((network.send r).on w).2) := by
    rw [send_on, hw, if_neg Bool.false_ne_true, hr]
    dsimp only
    rw [hsend]
    rfl
  rw [follow_on, hsent]
  dsimp only
  rw [hstays]

/-! ## What may be sent -/

/-- A hop the policy lets be sent. -/
structure Hop.Permitted (policy : Policy) (origin : Url) (hop : Hop) : Prop where
  scheme : hasScheme hop.url = true
  host : ∃ host, hop.url.hostText? = some host ∧ policy.hostAllowed host = true
  /-- What the caller put into headers is for the host that was asked for. -/
  headers : hop.headers = [] ∨ hop.url.hostText? = origin.hostText?

/-- A request that keeps to the policy. -/
structure Fits (policy : Policy) (r : HttpRequest) : Prop where
  scheme : hasScheme r.url = true
  host : ∃ host, r.url.hostText? = some host ∧ policy.hostAllowed host = true

/-- A request for a URL, with headers of the caller only if that is on the
host that was asked for. -/
structure Seeks (origin url : Url) (r : HttpRequest) : Prop where
  aim : r.url = url.withoutUser
  headers : url.hostText? = origin.hostText? ∨ r.headers = ownHeaders url

theorem Hop.Permitted.fits {r : HttpRequest} (hp : hop.Permitted policy origin)
    (hr : hop.request = .ok r) : Fits policy r := by
  obtain ⟨-, hurl, -, -⟩ := Hop.request_eq_ok hr
  constructor
  · rw [hurl]
    exact hp.scheme
  · rw [hurl]
    exact hp.host

theorem Hop.Permitted.seeks {r : HttpRequest} (hp : hop.Permitted policy origin)
    (hr : hop.request = .ok r) : Seeks origin hop.url r := by
  obtain ⟨-, hurl, -, hown⟩ := Hop.request_eq_ok hr
  exact ⟨hurl, hp.headers.symm.imp_right hown⟩

theorem checkHost_eq_ok {url : Url} (h : checkHost policy url = .ok ()) :
    ∃ host, url.hostText? = some host ∧ policy.hostAllowed host = true := by
  rw [checkHost] at h
  cases hhost : url.hostText? with
  | none =>
    rw [hhost] at h
    cases h
  | some host =>
    simp only [hhost] at h
    split at h
    · cases h
    · split at h
      · exact ⟨host, rfl, ‹_›⟩
      · cases h

/-- **A redirect the policy lets be followed leads to a hop it lets be
sent**: the headers stay where the host does, and are gone for good where
it does not. -/
theorem Hop.Permitted.redirected (hp : hop.Permitted policy origin) {status : Nat} {target : Url}
    (h : checkTarget policy target = .ok ()) :
    (hop.redirected status target).Permitted policy origin := by
  rw [checkTarget] at h
  split at h
  · rename_i hscheme
    refine ⟨hscheme, checkHost_eq_ok h, ?_⟩
    dsimp only [Hop.redirected]
    split
    · rename_i hsame
      rw [hsame]
      exact hp.headers
    · exact Or.inl rfl
  · cases h

/-- The first hop goes to the URL that was asked for. -/
theorem firstHop_permitted {args : Args} (h : firstHop args policy = .ok hop) :
    Url.parse args.url = .ok hop.url ∧ hop.Permitted policy hop.url := by
  rw [firstHop] at h
  cases hurl : Url.parse args.url with
  | error e =>
    rw [hurl] at h
    cases h
  | ok url =>
    rw [hurl] at h
    change (if (!hasScheme url) = true then _ else _) = _ at h
    split at h
    · cases h
    · rename_i hscheme
      obtain ⟨method, -, h⟩ := Except.exists_of_bind h
      obtain ⟨_, hhost, h⟩ := Except.exists_of_bind h
      cases h
      exact ⟨rfl, by simpa using hscheme, checkHost_eq_ok hhost, Or.inr rfl⟩

end HttpTool

end Turnstile
