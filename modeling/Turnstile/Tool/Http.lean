import Turnstile.Text.Cap
import Turnstile.Tool.Execution
import Turnstile.Web.Network
/-!
# The HTTP tool

One request, with redirects followed by the tool itself so that every hop
is held to the policy. Headers of the caller go to the host that was
asked for and nowhere else. The body is read until the cap is passed.
-/

namespace Turnstile

namespace HttpTool

/-- How this program calls itself. -/
def userAgent : String := "toolgate/0.3.0"

/-- How many redirects are followed. -/
def redirectLimit : Nat := 10

/-- The input. -/
structure Args where
  url : String
  method : Option String
  /-- In order of name. -/
  headers : List (String × String)
  body : Option String
  deriving DecidableEq, Repr, Inhabited

/-- Read the input. -/
def Args.reader : Reader Args := fun source doc => do
  let text := Reader.option Reader.string
  let headers := Reader.keyed Reader.string
  let fs ← Reader.eagerRecord "struct HttpArgs"
    [("url", Reader.judged Reader.string), ("method", Reader.judged text),
      ("headers", Reader.judged headers), ("body", Reader.judged text)] source doc
  return {
    url := ← fs.require "url" Reader.string
    method := ← fs.getD "method" text none
    headers := ← fs.getD "headers" headers []
    body := ← fs.getD "body" text none }

/-- The methods. -/
def methods : List String := ["GET", "POST", "PUT", "PATCH", "DELETE", "HEAD"]

/-- The definition shown to the model. -/
def definition : ToolDefinition where
  name := "http_request"
  description := "Send an HTTP request and return the status line and response body."
  inputSchema := Tool.schema
    [("url", Tool.property "string" "http or https URL"), ("method", Tool.choice methods),
      ("headers", .ofFields [("type", .str "object"),
        ("additionalProperties", .ofFields [("type", .str "string")])]),
      ("body", Tool.property "string" "Request body")]
    ["url"]

/-! ## Before a request -/

/-- The method that is asked for. -/
def methodOf : Option String → Except ToolError String
  | none => .ok "GET"
  | some name =>
    let name := Text.asciiUpper name
    if methods.contains name then .ok name
    else .error (.invalidInput ("unsupported method: " ++ name))

/-- The scheme is one that is spoken. -/
def hasScheme (url : Url) : Bool := url.scheme == "http" || url.scheme == "https"

/-- The policy lets a request go to the host of a URL. -/
def checkHost (policy : Policy) (url : Url) : Except ToolError Unit :=
  match url.hostText? with
  | none => .error (.invalidInput ("URL has no host: " ++ url.text))
  | some host =>
    if policy.network = .deny then .error (.policyViolation "network access is denied")
    else if policy.hostAllowed host then .ok ()
    else .error (.policyViolation ("host '" ++ host ++ "' is not in the allow list"))

/-- What the next request is. -/
structure Hop where
  method : String
  url : Url
  headers : List (String × String)
  body : Option String
  deriving DecidableEq, Repr, Inhabited

/-- The first request of an input. -/
def firstHop (args : Args) (policy : Policy) : Except ToolError Hop := do
  let url ←
    match Url.parse args.url with
    | .ok url => pure url
    | .error e => throw (.invalidInput ("invalid URL '" ++ args.url ++ "': " ++ e.message))
  if !hasScheme url then throw (.invalidInput ("unsupported scheme: " ++ url.scheme))
  let method ← methodOf args.method
  checkHost policy url
  return { method, url, headers := args.headers, body := args.body }

/-! ## Redirects -/

/-- A text that a header may be read as. -/
def isPlainText (value : String) : Bool :=
  value.toList.all fun c => c == '\t' || (32 ≤ c.toNat && c.toNat < 127)

/-- Where a response redirects to, if it does. -/
def target? (url : Url) (response : HttpResponse) : Option (Except ToolError Url) :=
  if !response.isRedirection then none
  else
    (response.header? "location").map fun location =>
      if !isPlainText location then
        .error (.execution
          "invalid redirect location: failed to convert header to a str")
      else
        match url.withoutUser.join location with
        | .ok target => .ok target
        | .error e =>
          .error (.execution ("invalid redirect location '" ++ location ++ "': " ++ e.message))

/-- The redirect turns the request into one for a page without a body. -/
def becomesGet (status : Nat) (method : String) : Bool :=
  (status == 303 && method != "HEAD") ||
  ((status == 301 || status == 302) && method == "POST")

/-- The request that follows a redirect. -/
def Hop.redirected (hop : Hop) (status : Nat) (target : Url) : Hop :=
  let get := becomesGet status hop.method
  { method := if get then "GET" else hop.method
    url := target
    headers := if target.hostText? = hop.url.hostText? then hop.headers else []
    body := if get then none else hop.body }

/-- The policy lets a redirect be followed. -/
def checkTarget (policy : Policy) (target : Url) : Except ToolError Unit :=
  if hasScheme target then checkHost policy target
  else .error (.policyViolation ("redirect to unsupported scheme: " ++ target.scheme))

/-- Send a request. -/
def send (network : Network) (hop : Hop) : Act ToolError HttpResponse := do
  if (← Act.look).isCancelled then throw .cancelled
  match HttpRequest.prepare hop.method hop.url (("user-agent", userAgent) :: hop.headers) hop.body with
  | .error text => throw (.invalidInput text)
  | .ok request =>
    Act.orElse (network.send request) fun text => .execution ("Request failed: " ++ text)

/-- Send a request and follow at most so many redirects. -/
def follow (network : Network) (policy : Policy) : Nat → Hop → Act ToolError HttpResponse
  | left, hop => do
    let response ← send network hop
    match target? hop.url response with
    | none => return response
    | some target => do
      let target ← Act.ofExcept target
      match left with
      | 0 =>
        throw (.execution ("too many redirects (limit " ++ toString redirectLimit ++ ")"))
      | left + 1 => do
        Act.ofExcept (checkTarget policy target)
        follow network policy left (hop.redirected response.status target)

/-! ## The answer -/

/-- Read a body until it is longer than `max`; whether it is, is told. -/
def gather (max : Nat) (read : Bytes) : Body → Except ToolError (Bytes × Bool)
  | [] => .ok (read, false)
  | .chunk bytes :: rest =>
    if max < (read ++ bytes).length then .ok (read ++ bytes, true)
    else gather max (read ++ bytes) rest
  | .failure text :: _ => .error (.execution ("Failed to read response body: " ++ text))
  | .silence :: _ => .error .cancelled

/-- Status line and body as they are shown. -/
def render (status max : Nat) (body : Bytes) (truncated : Bool) : String :=
  "HTTP " ++ toString status ++ " " ++ HttpResponse.phrase status ++ "\n\n" ++
    Text.truncate (Utf8.decodeLossy body) max ++
    if truncated then Text.truncationMarker else ""

/-- A success is an answer, anything else a failed execution. -/
def answer (policy : Policy) (response : HttpResponse) : Except ToolError String := do
  let max := policy.effectiveMaxOutputBytes
  let (body, truncated) ← gather max [] response.body
  let text := render response.status max body truncated
  if response.isSuccess then .ok text else .error (.execution text)

/-- Carry out the request of an input. -/
def execute (network : Network) (input : Json) (policy : Policy) : Act ToolError String := do
  let args ← Tool.input Args.reader input
  let hop ← Act.ofExcept (firstHop args policy)
  let response ← follow network policy redirectLimit hop
  if (← Act.look).isCancelled then throw .cancelled
  Act.ofExcept (answer policy response)

end HttpTool

/-- Requests to the network. -/
def httpTool (network : Network) : Tool :=
  ⟨HttpTool.definition, fun _ input _ policy => HttpTool.execute network input policy⟩

end Turnstile
