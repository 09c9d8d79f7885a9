import Turnstile.Keyed
/-!
# Settings — configuration before it is typed

What a configuration file or a set of variables says, as a tree. A later
source lies over an earlier one: tables are joined key by key, anything
else is replaced.
-/

namespace Turnstile

/-- A value in a configuration. -/
inductive Setting where
  | text (s : String)
  /-- A single character between single quotes, which only variables have. -/
  | letter (c : Char)
  | flag (b : Bool)
  | whole (n : Int)
  /-- A number with a point or an exponent; no setting takes one. -/
  | real (literal : String)
  | list (items : List Setting)
  /-- In increasing order of key. -/
  | table (entries : List (String × Setting))
  deriving Repr, Inhabited

namespace Setting

/-- A table of entries in any order; of equal keys the last one stands. -/
def ofEntries (entries : List (String × Setting)) : Setting := .table (Keyed.ofList entries)

/-- The value at the end of a path of keys. -/
def nested (path : List String) (value : Setting) : Setting :=
  path.foldr (fun key inner => .table [(key, inner)]) value

mutual

/-- One setting with another over it. -/
def under : Setting → Setting → Setting
  | .table below, .table above => .table (underAll below above)
  | _, above => above

/-- The entries of a table with those of another over them. -/
def underAll (below : List (String × Setting)) : List (String × Setting) → List (String × Setting)
  | [] => below
  | (key, value) :: rest =>
    let merged := match Keyed.find? key below with
      | some old => old.under value
      | none => value
    underAll (Keyed.insert key merged below) rest

end

end Setting

end Turnstile
