import Turnstile.Files.Tree
import Turnstile.Policy
/-!
# The path guard

Access is decided on where a path leads, not on how it is written. A path
is resolved as far as the tree goes: links are followed, `..` drops the
name before it, and names that do not exist yet are kept as they are.
Roots are resolved in the same way, and membership is by whole names.
-/

namespace Turnstile

/-- Why a path was refused. -/
inductive PathRefusal where
  | outsideRoots (path : AbsPath) (roots : List String)
  | readOnly (path : AbsPath) (root : String)
  | unresolved (path : String) (cause : FileFailure)
  deriving DecidableEq, Repr, Inhabited

namespace PathRefusal

/-- The message. -/
def message : PathRefusal → String
  | .outsideRoots path roots =>
    "Path " ++ path.text ++ " is outside the allowed roots (" ++ Text.join ", " roots ++ ")"
  | .readOnly path root => "Path " ++ path.text ++ " is inside read-only root " ++ root
  | .unresolved path cause => "Failed to resolve path " ++ path ++ ": " ++ cause.message

end PathRefusal

/-- A path the guard let through. -/
inductive CheckedPath where
  /-- Nothing restricts it; it is used as it was written. -/
  | unrestricted (path : String)
  | resolved (path : AbsPath)
  deriving DecidableEq, Repr, Inhabited

namespace CheckedPath

/-- The path as a text. -/
def text : CheckedPath → String
  | .unrestricted path => path
  | .resolved path => path.text

end CheckedPath

namespace Guard

/-- The names of a path that lead somewhere: dots are no steps. -/
def names (path : String) : List String := (Path.names path).filter (· != ".")

/-- The names of a path from the root down, before anything is resolved. -/
def absolute (cwd : AbsPath) (path : String) : List String :=
  if Path.isAbsolute path then names path else cwd ++ names path

/-- How deep links may be nested. -/
def linkDepth : Nat := 40

/-- Resolve names one by one below a place that holds no link; `expand`
resolves what a link leads to. -/
def resolveFrom (t : FileTree) (expand : List String → Except FileFailure AbsPath) :
    AbsPath → List String → Except FileFailure AbsPath
  | done, [] => .ok done
  | done, name :: rest =>
    if name = ".." then resolveFrom t expand done.dropLast rest
    else
      match t.lstat (done ++ [name]) with
      | .ok (.link target) =>
        match expand (absolute done target) with
        | .ok done => resolveFrom t expand done rest
        | .error e => .error e
      | .ok _ | .error .notFound => resolveFrom t expand (done ++ [name]) rest
      | .error e => .error e

/-- Resolve names from the root with so many levels of links. -/
def resolveNames (t : FileTree) : Nat → List String → Except FileFailure AbsPath
  | 0, _ => .error .linksTooDeep
  | levels + 1, path => resolveFrom t (resolveNames t levels) [] path

/-- Where a path leads. -/
def resolve (t : FileTree) (cwd : AbsPath) (path : String) : Except PathRefusal AbsPath :=
  match resolveNames t (linkDepth + 1) (absolute cwd path) with
  | .ok p => .ok p
  | .error cause => .error (.unresolved path cause)

/-- The first root that holds the path. -/
def rootOf? (t : FileTree) (cwd : AbsPath) (path : AbsPath) :
    List String → Except PathRefusal (Option String)
  | [] => .ok none
  | root :: roots => do
    if path.within (← resolve t cwd root) then return some root
    rootOf? t cwd path roots

/-- The path lies in one of the roots; no roots, no restriction. -/
def checkAllowed (t : FileTree) (cwd : AbsPath) (roots : List String) (path : CheckedPath) :
    Except PathRefusal CheckedPath :=
  if roots.isEmpty then .ok path
  else do
    let p ← resolve t cwd path.text
    match ← rootOf? t cwd p roots with
    | some _ => return .resolved p
    | none => throw (.outsideRoots p roots)

/-- The path lies in none of the read-only roots. -/
def checkWritable (t : FileTree) (cwd : AbsPath) (roots : List String) (path : CheckedPath) :
    Except PathRefusal CheckedPath :=
  if roots.isEmpty then .ok path
  else do
    let p ← resolve t cwd path.text
    match ← rootOf? t cwd p roots with
    | none => return .resolved p
    | some root => throw (.readOnly p root)

/-- A policy lets the path be read. -/
def checkRead (t : FileTree) (cwd : AbsPath) (policy : Policy) (path : String) :
    Except PathRefusal CheckedPath :=
  checkAllowed t cwd policy.allowedPaths (.unrestricted path)

/-- A policy lets the path be written. -/
def checkWrite (t : FileTree) (cwd : AbsPath) (policy : Policy) (path : String) :
    Except PathRefusal CheckedPath := do
  checkWritable t cwd policy.readOnlyPaths (← checkRead t cwd policy path)

end Guard

end Turnstile
