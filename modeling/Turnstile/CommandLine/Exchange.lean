import Turnstile.CommandLine.Run
import Turnstile.Machine.Stock
/-!
# Exchange — what a run takes from the system and gives back

A run happens in a world of its own. This module says which parts of the
system that world has to hold beforehand, and lists what is different in
its tree afterwards.
-/

namespace Turnstile

namespace Exchange

/-- The variables in a listing that ends each of them with a zero byte. -/
def environment (listing : Bytes) : List (String × String) :=
  let step (vars : List (String × String)) (item : List UInt8) : List (String × String) :=
    match item.span (· != 61) with
    | (name, _ :: value) => Keyed.insert (Utf8.decodeLossy name) (Utf8.decodeLossy value) vars
    | _ => vars
  (Text.splitListAt (· == 0) listing).foldl step []

/-- The paths besides the current directory that a run may look at: those
named on the command line, and the places of the configuration. -/
def outside (w : World) (words : List String) : List String :=
  Config.userFile w :: (words.filter Path.isAbsolute ++
    (Config.searched w).flatMap fun directory =>
      (Config.projectFiles ++ words.filter fun word => !Path.isAbsolute word).map
        (Path.join directory.text))

/-- A run that may read the standard input: one that asks before it runs
tools. -/
def mayAsk (words : List String) : Bool :=
  match CommandLine.Invocation.parse words with
  | .ok ⟨_, _, _, .chat order⟩ => order.runTools && !order.yes
  | _ => false

/-- The tree with a file and the directories above it. -/
def place (t : FileTree) (p : AbsPath) (content : Bytes) (executable : Bool) : FileTree :=
  (Stock.withDirectory t p.parent).put p (.file content executable)

/-- What is different at a place. -/
inductive Difference where
  | directory (place : AbsPath)
  | file (place : AbsPath) (content : Bytes)
  | gone (place : AbsPath) (wasDirectory : Bool)
  deriving DecidableEq, Repr, Inhabited

/-- What is new or has changed, directories before what is in them. -/
def changed (before after : FileTree) : List Difference :=
  after.entries.filterMap fun e =>
    if before.entry? e.1 = some e.2 then none
    else
      match e.2 with
      | .directory => some (.directory e.1)
      | .file content _ => some (.file e.1 content)
      | _ => none

/-- What is no longer there of what was below a directory, directories
behind what was in them. -/
def removed (top : AbsPath) (before after : FileTree) : List Difference :=
  before.entries.reverse.filterMap fun e =>
    if (after.entry? e.1).isSome || !e.1.within top then none
    else some (.gone e.1 (e.2 == .directory))

end Exchange

end Turnstile
