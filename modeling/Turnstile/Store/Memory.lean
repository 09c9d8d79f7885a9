import Turnstile.Keyed
import Turnstile.Text.Blank
import Turnstile.Text.Case
/-!
# Memories — notes kept per agent

Every agent has notes of its own under keys, listed in order of key. No
operation of one agent reads or changes what another one has.
-/

namespace Turnstile

/-- Failure of a store. -/
inductive StoreError where
  | notFound (key : String)
  | backend (text : String)
  deriving DecidableEq, Repr, Inhabited

namespace StoreError

/-- The message. -/
def message : StoreError → String
  | .notFound key => "Key not found: " ++ key
  | .backend text => "Store backend error: " ++ text

end StoreError

/-- The notes of every agent. -/
structure Memory where
  agents : List (String × List (String × String))
  deriving Repr, Inhabited

namespace Memory

/-- No notes. -/
def empty : Memory := ⟨[]⟩

/-- The notes of an agent in order of key. -/
def list (m : Memory) (agent : String) : List (String × String) :=
  (Keyed.find? agent m.agents).getD []

/-- The note of an agent under a key. -/
def get? (m : Memory) (agent key : String) : Option String := Keyed.find? key (m.list agent)

/-- Write a note. A note needs a key. -/
def set (m : Memory) (agent key value : String) : Except StoreError Memory :=
  if key.isEmpty then .error (.backend "key must not be empty")
  else .ok ⟨Keyed.insert agent (Keyed.insert key value (m.list agent)) m.agents⟩

/-- Remove a note, telling whether there was one. -/
def delete (m : Memory) (agent key : String) : Bool × Memory :=
  match Keyed.find? agent m.agents with
  | none => (false, m)
  | some notes =>
    ((Keyed.find? key notes).isSome, ⟨Keyed.insert agent (Keyed.erase key notes) m.agents⟩)

/-- A note holds the query in its key or value, letter case aside. -/
def matchesQuery (query : String) (note : String × String) : Bool :=
  Text.contains (Text.lower note.1) (Text.lower query) ||
  Text.contains (Text.lower note.2) (Text.lower query)

/-- The notes of an agent that hold the query. -/
def search (m : Memory) (agent query : String) : List (String × String) :=
  (m.list agent).filter (matchesQuery query)

end Memory

end Turnstile
