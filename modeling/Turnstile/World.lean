import Turnstile.Files.Tree
import Turnstile.Json.Value
import Turnstile.Sandbox.Run
import Turnstile.Policy
import Turnstile.Store.Credentials
import Turnstile.Web.Http
/-!
# The world — what tools act on

Everything that a tool can read or change is a part of one value: the
file tree, the stores, and a record of what was started, submitted, sent
and asked for. An action is a function on worlds, so an action that
leaves the world as it was has had no effect at all.
-/

namespace Turnstile

/-- What tools act on. -/
structure World where
  files : FileTree
  cwd : AbsPath
  /-- The variables this program was started with, in order of name. -/
  env : List (String × String)
  /-- Milliseconds until the invocation is cancelled; nought is now. -/
  cancelIn : Option Nat
  memory : Memory
  credentials : Credentials
  /-- The id of this program's process. -/
  processId : Nat
  /-- Containers named so far. -/
  containers : Nat
  /-- Processes started. -/
  started : List Launch
  /-- Commands handed to a sandbox, with the policy they came with. -/
  submitted : List (Command × Policy)
  /-- Notices delivered, each to a session. -/
  notices : List (String × String)
  /-- Calls of tools on other servers. -/
  remoteCalls : List (String × Json)
  /-- Requests sent. -/
  requests : List HttpRequest
  /-- Milliseconds since the start. -/
  clock : Nat
  /-- What is left to read of the standard input. -/
  stdin : Bytes
  /-- What was printed. -/
  stdout : String
  /-- What was printed for complaints and questions. -/
  stderr : String
  deriving Inhabited

namespace World

/-- A world with nothing but a tree and a current directory. -/
def fresh (files : FileTree) (cwd : AbsPath) : World where
  files := files
  cwd := cwd
  env := []
  cancelIn := none
  memory := .empty
  credentials := .empty
  processId := 1
  containers := 0
  started := []
  submitted := []
  notices := []
  remoteCalls := []
  requests := []
  clock := 0
  stdin := []
  stdout := ""
  stderr := ""

/-- The invocation is cancelled. -/
def isCancelled (w : World) : Bool := w.cancelIn == some 0

/-- The world with the invocation cancelled. -/
def cancel (w : World) : World := { w with cancelIn := some 0 }

/-- The world with a text printed. -/
def print (w : World) (text : String) : World := { w with stdout := w.stdout ++ text }

/-- The world with a complaint printed. -/
def complain (w : World) (text : String) : World := { w with stderr := w.stderr ++ text }

end World

/-- An action on a world that may fail; what it did before failing stays. -/
abbrev Act (ε α : Type) := ExceptT ε (StateM World) α

namespace Act

/-- Look at the world. -/
def look {ε : Type} : Act ε World := (get : StateM World World)

/-- Change the world. -/
def change {ε : Type} (f : World → World) : Act ε Unit := (modify f : StateM World Unit)

/-- A value or a failure, without an effect. -/
def ofExcept {ε α : Type} (e : Except ε α) : Act ε α := ExceptT.mk (pure e)

/-- The action with its failures renamed. -/
def orElse {ε δ α : Type} (act : Act ε α) (f : ε → δ) : Act δ α := ExceptT.adapt f act

/-- Run an action on a world. -/
def on {ε α : Type} (act : Act ε α) (w : World) : Except ε α × World := StateT.run act.run w

/-! ## What running an action comes to -/

variable {ε δ α β : Type} (w : World)

@[simp] theorem on_pure (x : α) : (pure x : Act ε α).on w = (.ok x, w) := rfl

@[simp] theorem on_throw (e : ε) : (throw e : Act ε α).on w = (.error e, w) := rfl

/-- The second action runs where the first left the world, unless that
failed. -/
@[simp] theorem on_bind (act : Act ε α) (next : α → Act ε β) :
    (act >>= next).on w =
      match act.on w with
      | (.ok x, after) => (next x).on after
      | (.error e, after) => (.error e, after) := by
  change (ExceptT.bindCont next (act.on w).1).run (act.on w).2 = _
  rcases act.on w with ⟨e | x, after⟩ <;> rfl

@[simp] theorem on_map (f : α → β) (act : Act ε α) :
    (f <$> act).on w = ((act.on w).1.map f, (act.on w).2) := by
  rw [← bind_pure_comp, on_bind]
  rcases act.on w with ⟨e | x, after⟩ <;> rfl

@[simp] theorem on_look : (look : Act ε World).on w = (.ok w, w) := rfl

@[simp] theorem on_change (f : World → World) : (change f : Act ε Unit).on w = (.ok (), f w) := rfl

@[simp] theorem on_ofExcept (e : Except ε α) : (ofExcept e).on w = (e, w) := rfl

@[simp] theorem on_orElse (act : Act ε α) (f : ε → δ) :
    (act.orElse f).on w = ((act.on w).1.mapError f, (act.on w).2) := rfl

/-- An action that cannot fail does not. -/
@[simp] theorem on_lift (act : StateM World α) :
    (liftM act : Act ε α).on w = (.ok (act w).1, (act w).2) := rfl

end Act

end Turnstile
