import Turnstile.CommandLine.Exchange
import Turnstile.Machine.Kernel
/-!
# The program

The outermost layer: it reads the variables, the current directory and
the configuration files into a world, runs the command line in that
world, and writes out what was printed and which files are different.
Commands run on the modelled machine, and no server can be reached.
-/

namespace Turnstile

namespace Program

/-- How deep directories are read. -/
def depth : Nat := 16

/-- The content of a file, if it can be read. -/
def content? (path : String) : IO (Option Bytes) := do
  try return some (← IO.FS.readBinFile path).toList
  catch _ => return none

/-- A file that names its interpreter can be run. -/
def isExecutable (content : Bytes) : Bool := content.take 2 == [35, 33]

/-- Read what is below a directory into a tree. -/
def readBelow : Nat → AbsPath → FileTree → IO FileTree
  | 0, _, tree => return tree
  | levels + 1, place, tree => do
    let mut tree := tree
    for item in ← (← IO.FS.realPath place.text).readDir do
      let inner := place ++ [item.fileName]
      match (← item.path.symlinkMetadata).type with
      | .dir => tree ← readBelow levels inner (tree.put inner .directory)
      | .file =>
        if let some content ← content? inner.text then
          tree := tree.put inner (.file content (isExecutable content))
      | .symlink =>
        let target ← IO.FS.realPath item.path
        if target != item.path then tree := tree.put inner (.link target.toString)
      -- a pipe or a socket is taken for the null device
      | .other => tree := tree.put inner .device
    return tree

/-- Read single files into a tree. -/
def readEach (paths : List String) (tree : FileTree) : IO FileTree :=
  paths.foldlM (fun tree path => do
    match ← content? path with
    | some content =>
      let place := Path.names (← IO.FS.realPath path).toString
      return Exchange.place tree place content (isExecutable content)
    | none => return tree) tree

/-- The world to run in. -/
def surroundings (words : List String) : IO World := do
  let here := Path.names (← IO.currentDir).toString
  let env := Exchange.environment ((← content? "/proc/self/environ").getD [])
  let start := { Stock.world here with env }
  let below ← readBelow depth here start.files
  let files ← readEach (Exchange.outside start words) below
  let stdin ← if Exchange.mayAsk words then (← IO.getStdin).readBinToEnd else pure .empty
  return { start with files, stdin := stdin.toList }

/-- Make the system's tree differ in the same way. -/
def settle : Exchange.Difference → IO Unit
  | .directory place => IO.FS.createDirAll place.text
  | .file place content => IO.FS.writeBinFile place.text ⟨content.toArray⟩
  | .gone place true => IO.FS.removeDir place.text
  | .gone place false => IO.FS.removeFile place.text

end Program

end Turnstile

open Turnstile in
/-- Run the program on the words of its command line. -/
def main (words : List String) : IO UInt32 := do
  let before ← Program.surroundings words
  let (code, after) := (CommandLine.run ⟨Kernel.machine, Network.unreachable⟩ words).run before
  for difference in Exchange.changed before.files after.files ++
      Exchange.removed before.cwd before.files after.files do
    Program.settle difference
  (← IO.getStdout).putStr after.stdout
  (← IO.getStderr).putStr after.stderr
  return code.toUInt32
