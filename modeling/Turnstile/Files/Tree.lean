import Turnstile.Files.Failure
import Turnstile.Files.Path
import Turnstile.Keyed
import Turnstile.Text.Utf8
/-!
# The file tree

A tree of directories, files and symbolic links, held as a map from
places to what is there. `walk` is the system's own resolution of a path:
it steps through directories, goes up on `..`, and follows at most forty
links; what it reaches is a place that exists or a missing last name in a
directory that does.
-/

namespace Turnstile

/-- What is at a place. -/
inductive Entry where
  | directory
  | file (content : Bytes) (executable : Bool)
  | link (target : String)
  /-- A program of the system, known by its name. -/
  | program (name : String)
  /-- The null device, or one that is written to in the same way: what is
  written to it is gone. -/
  | device
  deriving DecidableEq, Repr, Inhabited

namespace Entry

/-- It is a symbolic link. -/
def isLink : Entry → Bool
  | .link _ => true
  | _ => false

/-- It is a regular file. -/
def isFile : Entry → Bool
  | .file _ _ | .program _ => true
  | _ => false

end Entry

/-- A tree; the root is a directory without an entry of its own. -/
structure FileTree where
  entries : List (AbsPath × Entry)
  deriving DecidableEq, Repr, Inhabited

/-- Where the resolution of a path ends. -/
inductive Place where
  | found (at_ : AbsPath) (entry : Entry)
  /-- Nothing of that name in a directory that exists. -/
  | missing (directory : AbsPath) (name : String)
  deriving DecidableEq, Repr, Inhabited

namespace FileTree

/-- Nothing but the root. -/
def empty : FileTree := ⟨[]⟩

/-- What is at a place, links not followed. -/
def entry? (t : FileTree) (p : AbsPath) : Option Entry :=
  if p.isEmpty then some .directory else Keyed.find? p t.entries

/-- The tree with an entry put at a place. -/
def put (t : FileTree) (p : AbsPath) (e : Entry) : FileTree :=
  if p.isEmpty then t else ⟨Keyed.insert p e t.entries⟩

/-- The tree without the entry at a place. -/
def remove (t : FileTree) (p : AbsPath) : FileTree := ⟨Keyed.erase p t.entries⟩

/-- The names in a directory, in order. -/
def children (t : FileTree) (p : AbsPath) : List String :=
  t.entries.filterMap fun e =>
    match e.1.getLast? with
    | some name => if e.1.dropLast = p then some name else none
    | none => none

/-! ## Resolution -/

/-- The longest name, in bytes. -/
def longestName : Nat := 255

/-- The longest path, in bytes. -/
def longestPath : Nat := 4095

/-- How many links a resolution follows. -/
def linkLimit : Nat := 40

/-- Resolve names below the directory `here`; `expand` goes on from a link.
The last name is followed if it is a link and `follow` is set. -/
def walkFrom (t : FileTree) (follow : Bool)
    (expand : AbsPath → List String → Except FileFailure Place) :
    AbsPath → List String → Except FileFailure Place
  | here, [] => .ok (.found here .directory)
  | here, name :: rest =>
    if name = "." then walkFrom t follow expand here rest
    else if name = ".." then walkFrom t follow expand here.dropLast rest
    else if longestName < name.utf8ByteSize then .error .nameTooLong
    else
      match t.entry? (here ++ [name]) with
      | none => if rest.isEmpty then .ok (.missing here name) else .error .notFound
      | some .directory => walkFrom t follow expand (here ++ [name]) rest
      | some (.link target) =>
        if rest.isEmpty && !follow then .ok (.found (here ++ [name]) (.link target))
        else
          expand (if Path.isAbsolute target then [] else here) (Path.steps target ++ rest)
      | some other =>
        if rest.isEmpty then .ok (.found (here ++ [name]) other) else .error .notDirectory

/-- Resolve names below a directory, following at most so many links. -/
def walk (t : FileTree) (follow : Bool) : Nat → AbsPath → List String → Except FileFailure Place
  | 0 => walkFrom t follow fun _ _ => .error .tooManyLinks
  | links + 1 => walkFrom t follow (walk t follow links)

/-- Resolve a path as the system does. -/
def locate (t : FileTree) (follow : Bool) (cwd : AbsPath) (path : String) :
    Except FileFailure Place :=
  if path.toList.contains '\x00' then .error .nulInPath
  else if path.isEmpty then .error .notFound
  else if longestPath < path.utf8ByteSize then .error .nameTooLong
  else t.walk follow linkLimit (if Path.isAbsolute path then [] else cwd) (Path.steps path)

/-- What a path leads to. -/
def lookUp (t : FileTree) (follow : Bool) (cwd : AbsPath) (path : String) :
    Except FileFailure (AbsPath × Entry) :=
  match t.locate follow cwd path with
  | .error e => .error e
  | .ok (.missing _ _) => .error .notFound
  | .ok (.found p e) => .ok (p, e)

/-- What a path leads to, links followed. -/
def stat (t : FileTree) (cwd : AbsPath) (path : String) : Except FileFailure (AbsPath × Entry) :=
  t.lookUp true cwd path

/-- What is at a place given by its names, a link at its end not followed. -/
def lstat (t : FileTree) (p : AbsPath) : Except FileFailure Entry :=
  (t.lookUp false [] p.text).map (·.2)

/-- The path leads to something. -/
def pathExists (t : FileTree) (cwd : AbsPath) (path : String) : Bool :=
  (t.stat cwd path).toBool

/-- The path leads to a directory. -/
def isDirectory (t : FileTree) (cwd : AbsPath) (path : String) : Bool :=
  match t.stat cwd path with
  | .ok (_, .directory) => true
  | _ => false

/-! ## Reading and writing -/

/-- The content behind a path. -/
def read (t : FileTree) (cwd : AbsPath) (path : String) : Except FileFailure Bytes :=
  match t.stat cwd path with
  | .error e => .error e
  | .ok (_, .directory) => .error .isDirectory
  | .ok (_, .file content _) => .ok content
  | .ok _ => .ok []

/-- The path without slashes at its end; the root stays. -/
def withoutFinalSlashes (path : String) : String :=
  let trimmed := Text.trimEnd (· == '/') path
  if trimmed.isEmpty then path else trimmed

/-- Write a file, creating it if its directory exists. With `append` the
content goes after what is there. A program that is written is a file from
then on. -/
def write (t : FileTree) (cwd : AbsPath) (path : String) (append : Bool) (content : Bytes) :
    Except FileFailure FileTree :=
  if Text.endsWith path "/" then
    match t.locate false cwd (withoutFinalSlashes path) with
    | .error e => .error e
    | .ok _ => .error .isDirectory
  else
    match t.locate true cwd path with
    | .error e => .error e
    | .ok (.missing directory name) => .ok (t.put (directory ++ [name]) (.file content false))
    | .ok (.found _ .directory) => .error .isDirectory
    | .ok (.found p (.file old executable)) =>
      .ok (t.put p (.file (if append then old ++ content else content) executable))
    | .ok (.found p (.program _)) => .ok (t.put p (.file content true))
    | .ok (.found _ _) => .ok t

/-- Create one directory. -/
def createDirectory (t : FileTree) (cwd : AbsPath) (path : String) :
    Except FileFailure FileTree :=
  match t.locate false cwd (withoutFinalSlashes path) with
  | .error e => .error e
  | .ok (.missing directory name) => .ok (t.put (directory ++ [name]) .directory)
  | .ok (.found _ _) => .error .exists

/-- Create the first of the paths, and if something above it is missing,
first the next one. What was created before a failure stays. -/
def createFirst (cwd : AbsPath) : List String → FileTree → FileTree × Option FileFailure
  | [], t => (t, none)
  | path :: above, t =>
    match t.createDirectory cwd path with
    | .ok t => (t, none)
    | .error .notFound =>
      match createFirst cwd above t with
      | (t, some e) => (t, some e)
      | (t, none) =>
        match t.createDirectory cwd path with
        | .ok t => (t, none)
        | .error e => (t, if t.isDirectory cwd path then none else some e)
    | .error e => (t, if t.isDirectory cwd path then none else some e)

/-- Create a directory and every missing one above it. -/
def createDirectories (t : FileTree) (cwd : AbsPath) (path : String) :
    FileTree × Option FileFailure :=
  createFirst cwd (Path.ancestors path) t

end FileTree

end Turnstile
