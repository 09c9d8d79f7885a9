import Turnstile.Json.Doc
import Turnstile.Json.Printer
import Turnstile.Keyed
import Turnstile.Text.Quoted
/-!
# Typed reading of JSON

A reader turns a document into a value of a chosen type or says what it
met instead. Records are read from objects, whose unknown fields are
skipped unread, or from arrays, field by field in order. A choice is read
by the name in its `type` field; finding that name means keeping the whole
object, so then every leaf of it has to be usable.
-/

/-- Where one step after another succeeds, both do. -/
theorem Except.exists_of_bind {ε α β : Type} {m : Except ε α} {f : α → Except ε β} {b : β}
    (h : m >>= f = .ok b) : ∃ a, m = .ok a ∧ f a = .ok b := by
  cases m with
  | error e => cases h
  | ok a => exact ⟨a, rfl, h⟩

namespace Turnstile

/-- Why a document could not be read. -/
inductive Mismatch where
  /-- Something of another kind was found. -/
  | kind (found expected : String)
  /-- Of the right kind but outside the range. -/
  | range (found expected : String)
  | length (found : Nat) (expected : String)
  | missing (field : String)
  | duplicate (field : String)
  | variant (found : String) (expected : List String)
  /-- An unusable leaf, or nesting beyond the limit. -/
  | unusable
  deriving DecidableEq, Repr

namespace Mismatch

/-- A name as it is shown in messages. -/
def ticked (s : String) : String := "`" ++ s ++ "`"

/-- The message. -/
def message : Mismatch → String
  | .kind found expected => "invalid type: " ++ found ++ ", expected " ++ expected
  | .range found expected => "invalid value: " ++ found ++ ", expected " ++ expected
  | .length found expected => "invalid length " ++ toString found ++ ", expected " ++ expected
  | .missing field => "missing field " ++ ticked field
  | .duplicate field => "duplicate field " ++ ticked field
  | .variant found [] => "unknown variant " ++ ticked found ++ ", there are no variants"
  | .variant found [one] => "unknown variant " ++ ticked found ++ ", expected " ++ ticked one
  | .variant found [one, two] =>
    "unknown variant " ++ ticked found ++ ", expected " ++ ticked one ++ " or " ++ ticked two
  | .variant found many =>
    "unknown variant " ++ ticked found ++ ", expected one of " ++
      Text.join ", " (many.map ticked)
  | .unusable => "unusable value"

end Mismatch

/-- Where a document comes from: how much deeper it may nest, whether it is
part of a kept object (where a choice may also be given by number), and
whether an array may hold more elements than a record has. -/
structure Source where
  limit : Option Nat
  kept : Bool
  lax : Bool

namespace Source

/-- A text of its own. -/
def text : Source := ⟨some Doc.nestingLimit, false, false⟩

/-- A free-form value. -/
def value : Source := ⟨none, false, false⟩

/-- A configuration. -/
def settings : Source := ⟨none, false, true⟩

/-- One level further in. -/
def inside (s : Source) : Except Mismatch Source :=
  match Doc.inside s.limit with
  | some limit => .ok { s with limit }
  | none => .error .unusable

end Source

/-- Reads a document as a value of a type. -/
abbrev Reader (α : Type) := Source → Doc → Except Mismatch α

namespace Reader

/-- What a document is, as messages name it. -/
def describe : Doc → String
  | .null => "null"
  | .bool b => "boolean " ++ Mismatch.ticked (if b then "true" else "false")
  | .num (some (.int n)) => "integer " ++ Mismatch.ticked (toString n)
  | .num (some n) => "floating point " ++ Mismatch.ticked (Json.numberText n)
  | .num none => "number"
  | .str (some s) => "string " ++ Text.quote s
  | .str none => "string"
  | .arr _ => "sequence"
  | .obj _ => "map"

/-- The document is of another kind, or unusable. -/
def other {α : Type} (expected : String) : Doc → Except Mismatch α
  | .num none | .str none => .error .unusable
  | doc => .error (.kind (describe doc) expected)

/-- A string. -/
def string : Reader String := fun _ doc =>
  match doc with
  | .str (some s) => .ok s
  | doc => other "a string" doc

/-- A path. -/
def path : Reader String := fun _ doc =>
  match doc with
  | .str (some s) => .ok s
  | doc => other "path string" doc

/-- A truth value. -/
def bool : Reader Bool := fun _ doc =>
  match doc with
  | .bool b => .ok b
  | doc => other "a boolean" doc

/-- A natural number below `bound`, called `name` in messages. -/
def natBelow (bound : Nat) (name : String) : Reader Nat := fun _ doc =>
  match doc with
  | .num (some (.int n)) =>
    if 0 ≤ n ∧ n < bound then .ok n.toNat else .error (.range (describe doc) name)
  | doc => other name doc

/-- A natural number of 64 bits. -/
def nat64 : Reader Nat := natBelow (Nat.pow 2 64) "u64"

/-- An index. -/
def index : Reader Nat := natBelow (Nat.pow 2 64) "usize"

/-- A natural number of 32 bits. -/
def nat32 : Reader Nat := natBelow (Nat.pow 2 32) "u32"

/-- A single-precision number. -/
def single : Reader Binary := fun _ doc =>
  match doc with
  | .num (some (.int n)) => .ok (Binary.ofInt .binary32 n)
  | .num (some (.float x)) => .ok (x.convert .binary64 .binary32)
  | doc => other "f32" doc

/-- `null` for absence. -/
def option {α : Type} (r : Reader α) : Reader (Option α) := fun source doc =>
  match doc with
  | .null => .ok none
  | doc => (r source doc).map some

/-- Items in order. -/
def list {α : Type} (r : Reader α) : Reader (List α) := fun source doc =>
  match doc with
  | .arr items => do
    let source ← source.inside
    items.mapM (r source)
  | doc => other "a sequence" doc

/-- Values under their keys, in order of key; of equal keys the last one
stands. -/
def keyed {α : Type} (r : Reader α) : Reader (List (String × α)) := fun source doc =>
  match doc with
  | .obj fields => do
    let source ← source.inside
    let entries ← fields.mapM fun field =>
      match field.1 with
      | some key => do return (key, ← r source field.2)
      | none => throw .unusable
    return Keyed.ofList entries
  | doc => other "a map" doc

/-- One of some words: its text, or an object of that one key and `null`. -/
def word {α : Type} (words : List (String × α)) : Reader α := fun _ doc => do
  let find (name : String) : Except Mismatch α :=
    match words.find? (·.1 == name) with
    | some (_, value) => .ok value
    | none => .error (.variant name (words.map (·.1)))
  match doc with
  | .str (some name) => find name
  | .obj [(some name, rest)] =>
    let value ← find name
    match rest with
    | .null => return value
    | rest => other "unit" rest
  | .obj _ => throw (.range "map" "map with a single key")
  | doc => other "string or map" doc

/-- Any value. -/
def json : Reader Json := fun source doc =>
  match doc.toJson? source.limit with
  | some j => .ok j
  | none => .error .unusable

/-- The fields found of a record, with where they stand. -/
structure Fields where
  source : Source
  found : List (String × Doc)
  /-- How many there should be, if they were given by position. -/
  expected : Option (Nat × String)

/-- Take the known fields in the order of the text; `check` judges the
value of a field as it is met. -/
def collect (known : List String) (check : String → Doc → Except Mismatch Unit) :
    List (String × Doc) → List (Option String × Doc) → Except Mismatch (List (String × Doc))
  | found, [] => .ok found
  | _, (none, _) :: _ => .error .unusable
  | found, (some key, doc) :: rest =>
    if known.contains key then
      if found.any (·.1 == key) then .error (.duplicate key)
      else do
        check key doc
        collect known check (found ++ [(key, doc)]) rest
    else collect known check found rest

/-- Fields by position. -/
def position (known : List String) (check : String → Doc → Except Mismatch Unit) :
    List Doc → Except Mismatch (List (String × Doc))
  | [] => .ok []
  | doc :: docs =>
    match known with
    | [] => .ok []
    | key :: known => do
      check key doc
      return (key, doc) :: (← position known check docs)

/-- How many elements a record has, in words. -/
def elements (n : Nat) : String := toString n ++ (if n = 1 then " element" else " elements")

/-- The fields of a record called `name`. -/
def checkedRecord (name : String) (known : List String)
    (check : Source → String → Doc → Except Mismatch Unit) : Reader Fields := fun source doc =>
  match doc with
  | .obj fields => do
    let source ← source.inside
    return ⟨source, ← collect known (check source) [] fields, none⟩
  | .arr items => do
    let source ← source.inside
    let found ← position known (check source) items
    if known.length < items.length && !source.lax then
      .error (.length items.length "fewer elements in array")
    else
      return ⟨source, found, some (known.length, name ++ " with " ++ elements known.length)⟩
  | doc => other name doc

/-- The fields of a record whose fields are judged only when they are used. -/
def record (name : String) (known : List String) : Reader Fields :=
  checkedRecord name known fun _ _ _ => .ok ()

/-- A reader used only for its judgement. -/
def judged {α : Type} (r : Reader α) : Reader Unit := fun source doc =>
  (r source doc).map fun _ => ()

/-- The fields of a record, each judged as it is met. -/
def eagerRecord (name : String) (fields : List (String × Reader Unit)) : Reader Fields :=
  checkedRecord name (fields.map (·.1)) fun source key doc =>
    match fields.find? (·.1 == key) with
    | some (_, r) => r source doc
    | none => .ok ()

namespace Fields

/-- The document of a field. -/
def find? (fs : Fields) (key : String) : Option Doc :=
  (fs.found.find? (·.1 == key)).map (·.2)

/-- A field that must be there. -/
def require {α : Type} (fs : Fields) (key : String) (r : Reader α) : Except Mismatch α :=
  match fs.find? key, fs.expected with
  | some doc, _ => r fs.source doc
  | none, none => .error (.missing key)
  | none, some (_, expected) => .error (.length fs.found.length expected)

/-- A field with a default. -/
def getD {α : Type} (fs : Fields) (key : String) (r : Reader α) (default : α) :
    Except Mismatch α :=
  match fs.find? key with
  | some doc => r fs.source doc
  | none => .ok default

/-- A field that may be missing or `null`. -/
def get? {α : Type} (fs : Fields) (key : String) (r : Reader α) : Except Mismatch (Option α) :=
  fs.getD key (option r) none

end Fields

/-- Every leaf can be used and nesting stays within the limit. -/
def judge (source : Source) (doc : Doc) : Except Mismatch Source :=
  if source.kept then .ok source
  else
    match doc.toJson? source.limit with
    | some _ => .ok ⟨none, true, source.lax⟩
    | none => .error .unusable

/-- The name of the chosen variant. A number counts the variants `names`
from nought where the document is part of a kept object. -/
def variantName (names : List String) (source : Source) : Doc → Except Mismatch String
  | .str (some s) => .ok s
  | doc@(.num (some (.int n))) =>
    if source.kept ∧ 0 ≤ n then .ok (names.getD n.toNat "") else other "variant identifier" doc
  | doc => other "variant identifier" doc

/-- A choice: the variant's name under `key` and the rest, which is kept. -/
def tagged (key : String) (names : List String) : Reader (String × Source × Doc) :=
  fun source doc => do
    let within ← judge source doc
    match doc with
    | .obj fields =>
      match fields.filter (·.1 == some key) with
      | [] => .error (.missing key)
      | [(_, tag)] =>
        return (← variantName names source tag, within, .obj (fields.filter (·.1 != some key)))
      | _ => .error (.duplicate key)
    | .arr (tag :: items) => return (← variantName names source tag, within, .arr items)
    | .arr [] => .error (.missing key)
    | doc => other "internally tagged enum" doc

/-- A variant without fields: those of an object are skipped, but nothing
may stand in an array. -/
def bare : Reader Unit := fun _ doc =>
  match doc with
  | .arr (item :: items) => .error (.length (item :: items).length "0 elements in sequence")
  | _ => .ok ()

end Reader

end Turnstile
