import Turnstile.Text.Blank
import Turnstile.Text.Case
/-!
# Policy — the envelope of one execution

How long, how much output, which hosts and which paths. What a policy
leaves open is filled in where it is used.
-/

namespace Turnstile

/-- Network posture. -/
inductive NetworkAccess where
  | deny
  | allowList
  | allow
  deriving DecidableEq, Repr, Inhabited

namespace NetworkAccess

/-- The name of a posture. -/
def name : NetworkAccess → String
  | .deny => "deny"
  | .allowList => "allow_list"
  | .allow => "allow"

/-- Read a posture: letter case does not matter and a hyphen is an
underscore. The error is the message. -/
def parse (s : String) : Except String NetworkAccess :=
  match Text.replace (Text.lower s) "-" "_" with
  | "deny" | "none" => .ok .deny
  | "allow_list" | "allowlist" => .ok .allowList
  | "allow" | "all" => .ok .allow
  | other => .error ("unknown network access '" ++ other ++ "'")

end NetworkAccess

/-- The envelope of one execution. Paths are kept as they were written. -/
structure Policy where
  /-- In milliseconds. -/
  timeout : Option Nat
  maxOutputBytes : Nat
  network : NetworkAccess
  allowedHosts : List String
  /-- Roots that may be touched; none means anywhere. -/
  allowedPaths : List String
  /-- Roots that must not be written. -/
  readOnlyPaths : List String
  requireApproval : Bool
  deriving DecidableEq, Repr, Inhabited

namespace Policy

/-- Nothing set. -/
def default : Policy := ⟨none, 0, .deny, [], [], [], false⟩

/-- Milliseconds allowed where a policy sets none. -/
def defaultTimeout : Nat := 30000

/-- Bytes of output kept per stream where a policy sets none. -/
def defaultMaxOutputBytes : Nat := 1024 * 1024

/-- Milliseconds allowed. -/
def effectiveTimeout (p : Policy) : Nat :=
  match p.timeout with
  | some t => if t = 0 then defaultTimeout else t
  | none => defaultTimeout

/-- Bytes of output kept per stream. -/
def effectiveMaxOutputBytes (p : Policy) : Nat :=
  if p.maxOutputBytes = 0 then defaultMaxOutputBytes else p.maxOutputBytes

/-- Leading `*.`s removed. -/
def dropWildcards : List Char → List Char
  | '*' :: '.' :: rest => dropWildcards rest
  | cs => cs

/-- An allow-list entry as it is compared: leading `*.`s, then leading
dots removed, in small letters. -/
def canonicalEntry (entry : String) : List Char :=
  ((dropWildcards entry.toList).dropWhile (· == '.')).map Text.asciiLowerChar

/-- A host as it is compared: trailing dots removed, in small letters. -/
def canonicalHost (host : String) : List Char :=
  (Text.dropEndWhile (· == '.') host.toList).map Text.asciiLowerChar

/-- The host is the entry, or ends with a dot and the entry. -/
def entryMatches (host entry : List Char) : Bool :=
  host == entry || ('.' :: entry).isSuffixOf host

/-- Traffic to the host is permitted. -/
def hostAllowed (p : Policy) (host : String) : Bool :=
  match p.network with
  | .deny => false
  | .allow => true
  | .allowList =>
    p.allowedHosts.any fun entry => entryMatches (canonicalHost host) (canonicalEntry entry)

end Policy

end Turnstile
