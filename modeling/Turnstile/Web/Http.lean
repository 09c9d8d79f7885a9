import Turnstile.Stream.Pump
import Turnstile.Web.Url
/-!
# Requests and responses

A request is prepared before anything is sent: names and values of its
headers and its URL must be fit for the wire, and a name and password in
the URL become a header.
-/

namespace Turnstile

/-- A request on the wire. -/
structure HttpRequest where
  method : String
  url : Url
  /-- In the order they are written. -/
  headers : List (String × String)
  body : Option String
  deriving DecidableEq, Repr, Inhabited

/-- A response, its body as it arrives. -/
structure HttpResponse where
  status : Nat
  headers : List (String × String)
  body : Body
  deriving Repr, Inhabited

namespace HttpRequest

/-- A character of a header's name. -/
def isNameChar (c : Char) : Bool :=
  c.isAlphanum || "!#$%&'*+-.^_`|~".toList.contains c

/-- A header's name fit for the wire. -/
def isName (name : String) : Bool := !name.isEmpty && name.toList.all isNameChar

/-- A header's value fit for the wire: no control characters but tabs. -/
def isValue (value : String) : Bool :=
  value.toList.all fun c => c == '\t' || (32 ≤ c.toNat && c.toNat != 127)

/-- A header fit for the wire. -/
def isHeader (h : String × String) : Bool := isName h.1 && isValue h.2

/-- A place fit for the wire. -/
def isPlace (url : Url) : Bool :=
  url.placeText.toList.all fun c => c.isAlphanum || "!#$%&'()*+,-./:;=?@[]_~".toList.contains c

/-- A URL a request can go to. -/
def isTarget (url : Url) : Bool :=
  url.host.isSome && (url.scheme == "http" || url.scheme == "https") && isPlace url

/-- The 64 digits. -/
def digit64 (n : Nat) : Char :=
  "ABCDEFGHIJKLMNOPQRSTUVWXYZabcdefghijklmnopqrstuvwxyz0123456789+/".toList.getD n '='

/-- Bytes in digits to base 64, padded. -/
def base64 : Bytes → List Char
  | [] => []
  | [a] =>
    let n := a.toNat * 16
    [digit64 (n / 64), digit64 (n % 64), '=', '=']
  | [a, b] =>
    let n := (a.toNat * 256 + b.toNat) * 4
    [digit64 (n / 4096), digit64 (n / 64 % 64), digit64 (n % 64), '=']
  | a :: b :: c :: rest =>
    let n := (a.toNat * 256 + b.toNat) * 256 + c.toNat
    digit64 (n / 262144) :: digit64 (n / 4096 % 64) :: digit64 (n / 64 % 64) ::
      digit64 (n % 64) :: base64 rest

/-- The header a name and password in a URL become. -/
def userHeader (url : Url) : List (String × String) :=
  if url.user.isEmpty && url.password.isEmpty then []
  else
    let decoded (s : String) := Percent.decode s.toList
    [("authorization",
      "Basic " ++ String.ofList (base64 (decoded url.user ++ 58 :: decoded url.password)))]

/-- A request fit for the wire, or what is wrong with it. -/
def prepare (method : String) (url : Url) (headers : List (String × String))
    (body : Option String) : Except String HttpRequest :=
  if url.host.isSome && !headers.all isHeader then .error "builder error"
  else if isTarget url then
    .ok {
      method
      url := url.withoutUser
      headers := userHeader url ++ headers.map fun h => (Text.asciiLower h.1, h.2)
      body }
  else .error ("builder error for url (" ++ url.withoutUser.text ++ ")")

/-- The parts of a prepared request. -/
theorem prepare_eq_ok {method : String} {url : Url} {headers : List (String × String)}
    {body : Option String} {request : HttpRequest}
    (h : prepare method url headers body = .ok request) :
    request = ⟨method, url.withoutUser,
      userHeader url ++ headers.map (fun h => (Text.asciiLower h.1, h.2)), body⟩ := by
  rw [prepare] at h
  split at h
  · cases h
  · split at h
    · exact (Except.ok.inj h).symm
    · cases h

end HttpRequest

namespace HttpResponse

/-- The value of the first header of a name. -/
def header? (r : HttpResponse) (name : String) : Option String :=
  (r.headers.find? fun h => Text.asciiLower h.1 == name).map (·.2)

/-- The request was carried out. -/
def isSuccess (r : HttpResponse) : Bool := 200 ≤ r.status && r.status < 300

theorem isSuccess_iff {r : HttpResponse} :
    r.isSuccess = true ↔ 200 ≤ r.status ∧ r.status < 300 := by
  rw [isSuccess, Bool.and_eq_true, decide_eq_true_iff, decide_eq_true_iff]

/-- The response is about another place. -/
def isRedirection (r : HttpResponse) : Bool := 300 ≤ r.status && r.status < 400

/-- The phrases that go with codes. -/
def phrases : List (Nat × String) :=
  [(100, "Continue"), (101, "Switching Protocols"), (102, "Processing"), (103, "Early Hints"),
    (200, "OK"), (201, "Created"), (202, "Accepted"), (203, "Non Authoritative Information"),
    (204, "No Content"), (205, "Reset Content"), (206, "Partial Content"), (207, "Multi-Status"),
    (208, "Already Reported"), (226, "IM Used"), (300, "Multiple Choices"),
    (301, "Moved Permanently"), (302, "Found"), (303, "See Other"), (304, "Not Modified"),
    (305, "Use Proxy"), (307, "Temporary Redirect"), (308, "Permanent Redirect"),
    (400, "Bad Request"), (401, "Unauthorized"), (402, "Payment Required"), (403, "Forbidden"),
    (404, "Not Found"), (405, "Method Not Allowed"), (406, "Not Acceptable"),
    (407, "Proxy Authentication Required"), (408, "Request Timeout"), (409, "Conflict"),
    (410, "Gone"), (411, "Length Required"), (412, "Precondition Failed"),
    (413, "Payload Too Large"), (414, "URI Too Long"), (415, "Unsupported Media Type"),
    (416, "Range Not Satisfiable"), (417, "Expectation Failed"), (418, "I'm a teapot"),
    (421, "Misdirected Request"), (422, "Unprocessable Entity"), (423, "Locked"),
    (424, "Failed Dependency"), (425, "Too Early"), (426, "Upgrade Required"),
    (428, "Precondition Required"), (429, "Too Many Requests"),
    (431, "Request Header Fields Too Large"), (451, "Unavailable For Legal Reasons"),
    (500, "Internal Server Error"), (501, "Not Implemented"), (502, "Bad Gateway"),
    (503, "Service Unavailable"), (504, "Gateway Timeout"), (505, "HTTP Version Not Supported"),
    (506, "Variant Also Negotiates"), (507, "Insufficient Storage"), (508, "Loop Detected"),
    (510, "Not Extended"), (511, "Network Authentication Required")]

/-- The phrase of a code; an unusual code has none. -/
def phrase (status : Nat) : String := ((phrases.find? (·.1 == status)).map (·.2)).getD ""

end HttpResponse

end Turnstile
