import Turnstile.Files.Tree
/-!
# Looking for programs

A program is a file that may be executed. A name with a slash is a path;
any other is looked for in the directories of a search path, in order.
-/

namespace Turnstile

namespace FileTree

/-- The executable file a path leads to. -/
def executable (t : FileTree) (cwd : AbsPath) (path : String) :
    Except FileFailure (AbsPath × Entry) :=
  match t.stat cwd path with
  | .error e => .error e
  | .ok (p, .file content true) => .ok (p, .file content true)
  | .ok (p, .program name) => .ok (p, .program name)
  | .ok _ => .error .permissionDenied

/-- The first executable file among paths. If there is none, that one of
them was there but may not be executed counts more than what is missing. -/
def firstExecutable (t : FileTree) (cwd : AbsPath) : List String →
    Except FileFailure (AbsPath × Entry)
  | [] => .error .notFound
  | path :: rest =>
    match t.executable cwd path with
    | .ok found => .ok found
    | .error e =>
      match firstExecutable t cwd rest with
      | .ok found => .ok found
      | .error later => .error (if e = .permissionDenied then e else later)

/-- The paths a name may stand for. -/
def programPaths (searchPath name : String) : List String :=
  if name.toList.contains '/' then [name]
  else
    (Text.splitOn searchPath ':').map fun directory =>
      Path.join (if directory.isEmpty then "." else directory) name

/-- The program of a name, looked for along a search path. -/
def findProgram (t : FileTree) (cwd : AbsPath) (searchPath name : String) :
    Except FileFailure (AbsPath × Entry) :=
  if name.toList.contains '/' then t.executable cwd name
  else t.firstExecutable cwd (programPaths searchPath name)

/-- The path a name is found at. -/
def programPath? (t : FileTree) (cwd : AbsPath) (searchPath name : String) : Option String :=
  (programPaths searchPath name).find? fun path => (t.executable cwd path).toBool

end FileTree

end Turnstile
