import Turnstile.Text.Blank
/-!
# Paths — their text, and places in a tree

A path as it is written is a text; a place is the list of names that lead
from the root down to it. The functions on texts are lexical: they look
at nothing but the text.
-/

namespace Turnstile

/-- The names that lead from the root down to a place. -/
abbrev AbsPath := List String

namespace AbsPath

/-- The place as a text. -/
def text (p : AbsPath) : String := "/" ++ Text.join "/" p

/-- `p` is `root` or lies beneath it. -/
def within (p root : AbsPath) : Bool := root.isPrefixOf p

/-- The directory a place is in; the root is in itself. -/
def parent (p : AbsPath) : AbsPath := p.dropLast

end AbsPath

namespace Path

/-- The path starts at the root. -/
def isAbsolute (path : String) : Bool := Text.startsWith path "/"

/-- The names between the slashes. -/
def names (path : String) : List String :=
  (Text.splitOn path '/').filter fun name => !name.isEmpty

/-- The names of a path, where a final slash is a step to the directory
itself. -/
def steps (path : String) : List String :=
  names path ++ if Text.endsWith path "/" then ["."] else []

/-- `path` as seen from `base`. -/
def join (base path : String) : String :=
  if isAbsolute path then path
  else if base.isEmpty || Text.endsWith base "/" then base ++ path
  else base ++ "/" ++ path

/-- A piece between slashes that names nothing: an empty one, or a dot
that is not the start of the path. -/
def isFiller (first : Bool) (piece : String) : Bool :=
  piece.isEmpty || (piece == "." && !first)

/-- The pieces of a path, last first, without fillers at its end. -/
def trimFillers : List String → List String
  | [] => []
  | [piece] => if isFiller true piece then [] else [piece]
  | piece :: rest => if isFiller false piece then trimFillers rest else piece :: rest

/-- The pieces of a path, last first, and whether it is absolute. -/
def backwards (path : String) : List String × Bool :=
  let pieces := Text.splitOn path '/'
  if isAbsolute path then (trimFillers ("" :: pieces.tail).reverse, true)
  else (trimFillers pieces.reverse, false)

/-- The path without its last name; the root and the empty path have
none. -/
def parent? (path : String) : Option String :=
  match backwards path with
  | ([], _) => none
  | (_ :: rest, absolute) =>
    let kept := Text.join "/" (trimFillers rest).reverse
    some (if absolute && kept.isEmpty then "/" else kept)

/-- The texts of a path given by its pieces, last first, and of everything
above it but the root. -/
def ancestorsOf : List String → List String
  | [] => []
  | piece :: rest =>
    if isFiller rest.isEmpty piece then ancestorsOf rest
    else Text.join "/" (piece :: rest).reverse :: ancestorsOf rest

/-- The path and everything above it, but for the root. -/
def ancestors (path : String) : List String := ancestorsOf (backwards path).1

/-- The last name, if the path ends in one. -/
def fileName? (path : String) : Option String :=
  match (backwards path).1 with
  | [] => none
  | last :: _ => if last == ".." || last == "." then none else some last

end Path

end Turnstile
