import Turnstile.Tool.Basic
/-!
# Assembling streamed tool calls

A vendor may stream a call as an announcement and fragments of argument
text, several calls at once, each under its own index. An assembly keeps
one slot per open index, in increasing order of index.
-/

namespace Turnstile

/-- The value of streamed argument text. Blank text, and text that is not
JSON, stand for the empty object, so that the tool and not the stream
rejects it. -/
def parseArguments (text : String) : Json :=
  if Text.allBlank text then Json.empty else (Json.ofString? text).getD Json.empty

/-- A call under way. -/
structure CallSlot where
  id : String
  name : String
  arguments : String
  deriving DecidableEq, Repr, Inhabited

namespace CallSlot

/-- A slot that nothing was said about. -/
def blank : CallSlot := ⟨"", "", ""⟩

/-- Take over an id and a name where they are given and not empty. -/
def identify (slot : CallSlot) (id name : Option String) : CallSlot :=
  let keep (old : String) : Option String → String
    | some new => if new.isEmpty then old else new
    | none => old
  { slot with id := keep slot.id id, name := keep slot.name name }

/-- Add argument text. -/
def append (slot : CallSlot) (fragment : String) : CallSlot :=
  { slot with arguments := slot.arguments ++ fragment }

/-- The finished call. -/
def call (slot : CallSlot) : ToolCall :=
  .make slot.id slot.name (parseArguments slot.arguments)

end CallSlot

/-- The open slots in increasing order of index. -/
structure Assembly where
  slots : List (Nat × CallSlot)
  deriving Repr, Inhabited

namespace Assembly

/-- No open slot. -/
def empty : Assembly := ⟨[]⟩

/-- The slot at an index. -/
def get? (a : Assembly) (index : Nat) : Option CallSlot :=
  Keyed.find? index a.slots

/-- Replace or open the slot at an index. -/
def set (a : Assembly) (index : Nat) (slot : CallSlot) : Assembly := ⟨Keyed.insert index slot a.slots⟩

/-- Open a slot, or begin it anew. -/
def start (a : Assembly) (index : Nat) (id name : String) : Assembly :=
  a.set index ⟨id, name, ""⟩

/-- Tell a slot its id or name, opening it where needed. -/
def identify (a : Assembly) (index : Nat) (id name : Option String) : Assembly :=
  a.set index (((a.get? index).getD .blank).identify id name)

/-- Add argument text to a slot, opening it where needed. -/
def append (a : Assembly) (index : Nat) (fragment : String) : Assembly :=
  a.set index (((a.get? index).getD .blank).append fragment)

/-- The slot at an index is open. -/
def isOpen (a : Assembly) (index : Nat) : Bool := (a.get? index).isSome

/-- No slot is open. -/
def isEmpty (a : Assembly) : Bool := a.slots.isEmpty

/-- Close the slot at an index and give its call. -/
def finish (a : Assembly) (index : Nat) : Assembly × Option ToolCall :=
  (⟨Keyed.erase index a.slots⟩, (a.get? index).map CallSlot.call)

/-- Close every slot and give the calls in order of index. -/
def finishAll (a : Assembly) : Assembly × List ToolCall :=
  (empty, a.slots.map (·.2.call))

end Assembly

end Turnstile
