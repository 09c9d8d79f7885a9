import Turnstile.Text.Cap
import Turnstile.Text.Lines
import Turnstile.Tool.Execution
/-!
# The file tools

Reading and writing files behind the path guard. What the guard answers
is the path that is opened.
-/

namespace Turnstile

namespace FileTool

/-- A failed file operation on a path. -/
def failed (action path : String) (cause : FileFailure) : ToolError :=
  .execution ("Failed to " ++ action ++ " " ++ path ++ ": " ++ cause.message)

/-- The guard's answer on the tree as it is. -/
def guarded (check : FileTree → AbsPath → Policy → String → Except PathRefusal CheckedPath)
    (policy : Policy) (path : String) : Act ToolError String := do
  let w ← Act.look
  let checked ← Act.orElse (Act.ofExcept (check w.files w.cwd policy path)) ToolError.ofRefusal
  return checked.text

end FileTool

namespace ReadFileTool

/-- The greatest size that is read, in bytes. -/
def sizeLimit : Nat := 10 * 1024 * 1024

/-- The input. -/
structure Args where
  path : String
  /-- The first line wanted, counted from nought. -/
  offset : Nat
  /-- How many lines are wanted. -/
  limit : Option Nat
  deriving DecidableEq, Repr, Inhabited

/-- Read the input. -/
def Args.reader : Reader Args := fun source doc => do
  let limit := Reader.option Reader.index
  let fs ← Reader.eagerRecord "struct ReadArgs"
    [("path", Reader.judged Reader.path), ("offset", Reader.judged Reader.index),
      ("limit", Reader.judged limit)] source doc
  return {
    path := ← fs.require "path" Reader.path
    offset := ← fs.getD "offset" Reader.index 0
    limit := ← fs.getD "limit" limit none }

/-- The definition shown to the model. -/
def definition : ToolDefinition where
  name := "read_file"
  description := "Read the contents of a file at the specified path"
  inputSchema := Tool.schema
    [("path", Tool.property "string" "Path to the file to read"),
      ("offset", Tool.property "integer" "Line number to start reading from (0-indexed)"),
      ("limit", Tool.property "integer" "Maximum number of lines to read")]
    ["path"]

/-- The lines wanted, or the whole content if none were named. -/
def page (offset : Nat) (limit : Option Nat) (content : String) : String :=
  if 0 < offset ∨ limit.isSome then
    let rest := (Text.lines content).drop offset
    Text.join "\n" (match limit with
      | some n => rest.take n
      | none => rest)
  else content

/-- The content of a file that may be read. -/
def content (files : FileTree) (cwd : AbsPath) (path : String) : Except ToolError Bytes :=
  match files.stat cwd path with
  | .error e => .error (FileTool.failed "stat" path e)
  | .ok (_, .file bytes _) =>
    if sizeLimit < bytes.length then
      .error (.execution ("File too large (" ++ toString bytes.length ++
        " bytes). Maximum size is " ++ toString sizeLimit ++ " bytes"))
    else .ok bytes
  | .ok (_, .program _) => .ok []
  | .ok _ => .error (.invalidInput ("'" ++ path ++ "' is not a file"))

/-- Read a file or a page of its lines. -/
def execute (input : Json) (policy : Policy) : Act ToolError String := do
  let args ← Tool.input Args.reader input
  let path ← FileTool.guarded Guard.checkRead policy args.path
  let w ← Act.look
  let bytes ← Act.ofExcept (content w.files w.cwd path)
  return Text.capWithMarker (page args.offset args.limit (Utf8.decodeLossy bytes))
    policy.effectiveMaxOutputBytes

end ReadFileTool

namespace WriteFileTool

/-- The input. -/
structure Args where
  path : String
  content : String
  createDirs : Bool
  append : Bool
  deriving DecidableEq, Repr, Inhabited

/-- Read the input. -/
def Args.reader : Reader Args := fun source doc => do
  let fs ← Reader.eagerRecord "struct WriteArgs"
    [("path", Reader.judged Reader.path), ("content", Reader.judged Reader.string),
      ("create_dirs", Reader.judged Reader.bool), ("append", Reader.judged Reader.bool)]
    source doc
  return {
    path := ← fs.require "path" Reader.path
    content := ← fs.require "content" Reader.string
    createDirs := ← fs.getD "create_dirs" Reader.bool false
    append := ← fs.getD "append" Reader.bool false }

/-- The definition shown to the model. -/
def definition : ToolDefinition where
  name := "write_file"
  description := "Write content to a file at the specified path. Creates the file if it doesn't exist, or overwrites if it does."
  inputSchema := Tool.schema
    [("path", Tool.property "string" "Path to the file to write"),
      ("content", Tool.property "string" "Content to write to the file"),
      ("create_dirs", Tool.property "boolean" "Create parent directories if they don't exist"),
      ("append", Tool.property "boolean" "Append instead of overwriting")]
    ["path", "content"]

/-- Make sure of the directory a path is in. -/
def ensureParent (path : String) (createDirs : Bool) : Act ToolError Unit := do
  let w ← Act.look
  match Path.parent? path with
  | none => return
  | some parent =>
    if w.files.pathExists w.cwd parent then return
    if !createDirs then
      throw (.execution ("Parent directory does not exist: " ++ parent))
    let (files, failure) := w.files.createDirectories w.cwd parent
    Act.change fun w => { w with files }
    match failure with
    | some cause => throw (FileTool.failed "create" parent cause)
    | none => return

/-- Write a file, or go on at its end. -/
def execute (input : Json) (policy : Policy) : Act ToolError String := do
  let args ← Tool.input Args.reader input
  let path ← FileTool.guarded Guard.checkWrite policy args.path
  ensureParent path args.createDirs
  let w ← Act.look
  let bytes := Utf8.encode args.content
  match w.files.write w.cwd path args.append bytes with
  | .error cause => throw (FileTool.failed "open" path cause)
  | .ok files => Act.change fun w => { w with files }
  return (if args.append then "Appended " else "Wrote ") ++ toString bytes.length ++
    " bytes to " ++ path

end WriteFileTool

/-- Reading files. -/
def readFileTool : Tool := ⟨ReadFileTool.definition, fun _ input _ => ReadFileTool.execute input⟩

/-- Writing files. -/
def writeFileTool : Tool :=
  ⟨WriteFileTool.definition, fun _ input _ => WriteFileTool.execute input⟩

end Turnstile
