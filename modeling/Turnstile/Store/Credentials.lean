import Turnstile.Store.Memory
import Turnstile.Text.Quoted
/-!
# Credentials — named secrets

Values leave only when they are asked for by name; listings hold names,
and the description of a store holds neither.
-/

namespace Turnstile

/-- Secrets in order of name. -/
structure Credentials where
  secrets : List (String × String)
  deriving Inhabited

namespace Credentials

/-- No secrets. -/
def empty : Credentials := ⟨[]⟩

/-- The secret of a name. -/
def get? (c : Credentials) (name : String) : Option String := Keyed.find? name c.secrets

/-- Store a secret. A secret needs a name. -/
def set (c : Credentials) (name value : String) : Except StoreError Credentials :=
  if name.isEmpty then .error (.backend "credential name must not be empty")
  else .ok ⟨Keyed.insert name value c.secrets⟩

/-- Remove a secret, telling whether there was one. -/
def delete (c : Credentials) (name : String) : Bool × Credentials :=
  ((c.get? name).isSome, ⟨Keyed.erase name c.secrets⟩)

/-- The names in order. -/
def names (c : Credentials) : List String := c.secrets.map (·.1)

/-- What may be shown of a store. -/
def describe (_ : Credentials) : String :=
  "InMemoryCredentialStore \x7b secrets: " ++ Text.quote "<redacted>" ++ " \x7d"

end Credentials

end Turnstile
