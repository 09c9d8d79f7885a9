import Turnstile.Web.Host
/-!
# URLs

Reading a URL, alone or as seen from another one, and writing it again.
URLs of the common schemes have a host and a path of segments; steps to
the same or the upper directory are taken out while reading.
-/

namespace Turnstile

/-- The path of a URL. -/
inductive UrlPath where
  | segments (names : List String)
  /-- A path without structure. -/
  | verbatim (text : String)
  deriving DecidableEq, Repr, Inhabited

/-- A URL. -/
structure Url where
  scheme : String
  user : String
  password : String
  host : Option Host
  /-- Absent if it is the usual one of the scheme. -/
  portNumber : Option Nat
  path : UrlPath
  query : Option String
  fragment : Option String
  deriving DecidableEq, Repr, Inhabited

namespace Url

/-- The usual port number of a common scheme. -/
def usualPort? : String → Option Nat
  | "http" | "ws" => some 80
  | "https" | "wss" => some 443
  | "ftp" => some 21
  | _ => none

/-- A scheme whose URLs have a host. -/
def isCommon (scheme : String) : Bool := (usualPort? scheme).isSome

/-- A slash; in a common scheme a backslash is one too. -/
def isSlash (common : Bool) (c : Char) : Bool := c == '/' || (common && c == '\\')

/-- The characters after which a path is over. -/
def endsPath (c : Char) : Bool := c == '?' || c == '#'

/-! ## What is put behind percent signs -/

/-- Escaped in fragments. -/
def escapedInFragment (c : Char) : Bool := " \"<>`".toList.contains c

/-- Escaped in paths. -/
def escapedInPath (c : Char) : Bool := escapedInFragment c || "#?^\x7b\x7d".toList.contains c

/-- Escaped in names and passwords. -/
def escapedInUser (c : Char) : Bool := escapedInPath c || "/:;=@[\\]|".toList.contains c

/-- Escaped in queries. -/
def escapedInQuery (common : Bool) (c : Char) : Bool :=
  " \"#<>".toList.contains c || (common && c == '\'')

/-! ## Reading -/

/-- Blanks and control characters around a URL, tabs and line ends in it
do not count. -/
def cleaned (text : String) : List Char :=
  let around (c : Char) : Bool := c.toNat ≤ 32
  (Text.dropEndWhile around (text.toList.dropWhile around)).filter fun c =>
    !(c == '\t' || c == '\n' || c == '\r')

/-- The scheme in front of the first colon, and what follows. -/
def scheme? (cs : List Char) : Option (String × List Char) :=
  match cs with
  | [] => none
  | c :: _ =>
    if c.isAlpha then
      let (name, rest) := cs.span fun c => c.isAlphanum || c == '+' || c == '-' || c == '.'
      match rest with
      | ':' :: rest => some (Text.asciiLower (String.ofList name), rest)
      | _ => none
    else none

/-- The query and the fragment at the end of a URL. -/
def tails (common : Bool) (cs : List Char) : Option String × Option String :=
  let fragmentOf : List Char → Option String
    | '#' :: rest => some (String.ofList (Percent.encode escapedInFragment rest))
    | _ => none
  match cs with
  | '?' :: rest =>
    let (query, rest) := rest.span (· != '#')
    (some (String.ofList (Percent.encode (escapedInQuery common) query)), fragmentOf rest)
  | cs => (none, fragmentOf cs)

/-- A segment that stays where it is. -/
def isDot (segment : List Char) : Bool :=
  [".", "%2e"].contains (Text.asciiLower (String.ofList segment))

/-- A segment that goes up. -/
def isDotDot (segment : List Char) : Bool :=
  ["..", ".%2e", "%2e.", "%2e%2e"].contains (Text.asciiLower (String.ofList segment))

/-- Go on from the segments `done` along further ones. -/
def follow (done : List String) : List (List Char) → List String
  | [] => done
  | segment :: rest =>
    let closed (names : List String) := if rest.isEmpty then names ++ [""] else names
    if isDotDot segment then follow (closed done.dropLast) rest
    else if isDot segment then follow (closed done) rest
    else follow (done ++ [String.ofList (Percent.encode escapedInPath segment)]) rest

/-- The path and the tails of a URL, from the segments `start` on. -/
def withPath (url : Url) (start : List String) (cs : List Char) : Url :=
  let common := isCommon url.scheme
  let (path, rest) := cs.span fun c => !endsPath c
  let (query, fragment) := tails common rest
  { url with
    path := .segments (follow start (Text.splitListAt (isSlash common) path))
    query
    fragment }

/-- The path that follows an authority. -/
def withRootedPath (url : Url) (cs : List Char) : Url :=
  let common := isCommon url.scheme
  match cs with
  | c :: rest =>
    if isSlash common c then url.withPath [] rest
    else if !common && endsPath c then
      let (query, fragment) := tails common cs
      { url with path := .segments [], query, fragment }
    else url.withPath [] cs
  | [] => if common then url.withPath [] [] else { url with path := .segments [] }

/-- Cut at the last `@`. -/
def cutUser (authority : List Char) : Option (List Char × List Char) :=
  match authority.reverse.span (· != '@') with
  | (_, []) => none
  | (host, _ :: user) => some (user.reverse, host.reverse)

/-- Cut a host from its port number, at the first colon outside of brackets. -/
def cutPort : Bool → List Char → List Char × Option (List Char)
  | _, [] => ([], none)
  | inside, c :: rest =>
    if c == ':' && !inside then ([], some rest)
    else
      let inside := if c == '[' then true else if c == ']' then false else inside
      let (host, number) := cutPort inside rest
      (c :: host, number)

/-- The port number of a scheme written in digits; none is the usual one. -/
def portOf (scheme : String) (digits : List Char) : Except UrlError (Option Nat) :=
  if digits.all Char.isDigit then
    let value := digits.foldl (fun n c => n * 10 + (c.toNat - 48)) 0
    if 65535 < value then .error .badPort
    else if digits.isEmpty ∨ usualPort? scheme = some value then .ok none
    else .ok (some value)
  else .error .badPort

/-- What stands between the double slash and the path. -/
def authority (scheme : String) (cs : List Char) : Except UrlError Url := do
  let common := isCommon scheme
  let (authority, rest) := cs.span fun c => !(isSlash common c || endsPath c)
  let (user, place) :=
    match cutUser authority with
    | none => (none, authority)
    | some (user, place) => (some user, place)
  if user.isSome && place.isEmpty then throw .emptyHost
  let (name, password) :=
    match (user.getD []).span (· != ':') with
    | (name, []) => (name, [])
    | (name, _ :: password) => (name, password)
  let (hostText, digits) := cutPort false place
  let host ←
    if common then
      if hostText.isEmpty then throw .emptyHost else (Host.parse hostText).map some
    else if hostText.isEmpty then
      if user.isSome || digits.isSome then throw .emptyHost else pure none
    else (Host.parseVerbatim hostText).map some
  let portNumber ← portOf scheme (digits.getD [])
  let url : Url := {
    scheme
    user := String.ofList (Percent.encode escapedInUser name)
    password := String.ofList (Percent.encode escapedInUser password)
    host
    portNumber
    path := .segments []
    query := none
    fragment := none }
  return url.withRootedPath rest

/-- A URL with nothing but a scheme. -/
def bare (scheme : String) : Url := ⟨scheme, "", "", none, none, .segments [], none, none⟩

/-- A local file's URL, after the colon. -/
def localFile (cs : List Char) : Except UrlError Url :=
  match cs with
  | a :: b :: rest =>
    if isSlash true a && isSlash true b then
      let (hostText, rest) := rest.span fun c => !(isSlash true c || endsPath c)
      if hostText.isEmpty then .ok ((bare "file").withPath [] (rest.drop 1))
      else do
        let host ← Host.parse hostText
        return ({ bare "file" with host := some host }).withPath [] (rest.drop 1)
    else .ok ((bare "file").withPath [] (if isSlash true a then b :: rest else cs))
  | cs => .ok ((bare "file").withPath [] cs)

/-- A URL as seen from `base`, which has segments. -/
def relative (base : Url) (names : List String) (cs : List Char) : Except UrlError Url :=
  let common := isCommon base.scheme
  match cs with
  | [] => .ok { base with fragment := none }
  | c :: rest =>
    if c == '#' then .ok { base with fragment := (tails common cs).2 }
    else if c == '?' then
      let (query, fragment) := tails common cs
      .ok { base with query, fragment }
    else if isSlash common c then
      if (rest.head?.map (isSlash common)).getD false then
        authority base.scheme (rest.dropWhile (isSlash common))
      else .ok (base.withPath [] rest)
    else .ok (base.withPath names.dropLast cs)

/-- A URL with a scheme of its own. -/
def withScheme (base : Option Url) (scheme : String) (cs : List Char) : Except UrlError Url :=
  if scheme = "file" then localFile cs
  else if isCommon scheme then
    let slashes := (cs.takeWhile (isSlash true)).length
    match base with
    | some { path := .segments names, scheme := same, .. } =>
      if same = scheme ∧ slashes < 2 then
        match base with
        | some base => relative base names cs
        | none => authority scheme (cs.drop slashes)
      else authority scheme (cs.drop slashes)
    | _ => authority scheme (cs.drop slashes)
  else
    match cs with
    | '/' :: '/' :: rest => authority scheme rest
    | '/' :: rest => .ok ((bare scheme).withPath [] rest)
    | cs =>
      let (path, rest) := cs.span fun c => !endsPath c
      let (query, fragment) := tails false rest
      .ok { bare scheme with
        path := .verbatim (String.ofList (Percent.encode (fun _ => false) path))
        query
        fragment }

/-- Read a URL, as seen from `base` if there is one. -/
def read (base : Option Url) (text : String) : Except UrlError Url :=
  let cs := cleaned text
  match scheme? cs with
  | some (scheme, rest) => withScheme base scheme rest
  | none =>
    match base with
    | none => .error .relativeWithoutBase
    | some base =>
      match base.path with
      | .segments names => relative base names cs
      | .verbatim _ =>
        if cs.head? = some '#' then .ok { base with fragment := (tails false cs).2 }
        else .error .baseCannotBeABase

/-- Read a URL. -/
def parse (text : String) : Except UrlError Url := read none text

/-- Read a URL as seen from another one. -/
def join (base : Url) (text : String) : Except UrlError Url := read (some base) text

/-! ## Writing -/

/-- The path as a text. -/
def pathText (url : Url) : String :=
  match url.path with
  | .verbatim text => text
  | .segments [] => ""
  | .segments names =>
    (if url.host.isNone && 1 < names.length && names.head? == some "" then "/." else "") ++
      "/" ++ Text.join "/" names

/-- The name and password in front of a host. -/
def userText (url : Url) : String :=
  if url.user.isEmpty && url.password.isEmpty then ""
  else url.user ++ (if url.password.isEmpty then "" else ":" ++ url.password) ++ "@"

/-- The host as a text. -/
def hostText? (url : Url) : Option String := url.host.map Host.text

/-- Host and port number. -/
def placeText (url : Url) : String :=
  (url.hostText?.getD "") ++ (url.portNumber.map fun p => ":" ++ toString p).getD ""

/-- Path and query, as a request asks for them. -/
def target (url : Url) : String := url.pathText ++ (url.query.map ("?" ++ ·)).getD ""

/-- The URL as a text. -/
def text (url : Url) : String :=
  url.scheme ++ ":" ++
    (if url.host.isSome || url.scheme == "file" then "//" ++ url.userText ++ url.placeText
     else "") ++
    url.target ++ (url.fragment.map ("#" ++ ·)).getD ""

/-- The URL without name and password. -/
def withoutUser (url : Url) : Url := { url with user := "", password := "" }

end Url

end Turnstile
