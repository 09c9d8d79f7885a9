import Turnstile.Text.Blank
/-!
# Options and operands

Taking a command line apart. Long options stand behind two hyphens, short
ones behind one and in clusters; a value follows in the same word or in
the next. Behind a word of two hyphens nothing is an option any more. Any
option but the counted ones may be given once.
-/

namespace Turnstile

namespace CommandLine

/-- What an option or operand is given. -/
inductive Takes where
  | nothing
  /-- Nothing, any number of times. -/
  | count
  | text
  /-- A text that is not empty. -/
  | path
  | number
  deriving DecidableEq, Repr, Inhabited

/-- An option. -/
structure Switch where
  name : String
  short : Option Char
  takes : Takes
  deriving DecidableEq, Repr, Inhabited

/-- What a command line may hold. -/
structure Form where
  switches : List Switch
  operands : List Takes
  /-- Behind two hyphens stands a program with its arguments. -/
  takesProgram : Bool
  deriving Repr, Inhabited

/-- Why a command line is not carried out. -/
inductive Halt where
  | help
  | version
  | misuse (text : String)
  deriving DecidableEq, Repr, Inhabited

/-- A command line taken apart. -/
structure Parsed where
  /-- The options with their values, in order. -/
  given : List (String × String)
  operands : List String
  program : List String
  deriving DecidableEq, Repr, Inhabited

namespace Parsed

/-- Nothing. -/
def empty : Parsed := ⟨[], [], []⟩

/-- The value of an option. -/
def value? (p : Parsed) (name : String) : Option String :=
  (p.given.find? (·.1 == name)).map (·.2)

/-- The option is given. -/
def has (p : Parsed) (name : String) : Bool := (p.value? name).isSome

/-- How often an option is given. -/
def times (p : Parsed) (name : String) : Nat := (p.given.filter (·.1 == name)).length

end Parsed

/-- The number a text spells, if it fits 64 bits. -/
def number? (s : String) : Option Nat :=
  let ds := match s.toList with
    | '+' :: ds => ds
    | ds => ds
  let n := ds.foldl (fun n c => n * 10 + (c.toNat - 48)) 0
  if ds.isEmpty || !ds.all Char.isDigit || Nat.pow 2 64 ≤ n then none else some n

/-- A value is fit for what is taken. -/
def isFit (value : String) : Takes → Bool
  | .path => !value.isEmpty
  | .number => (number? value).isSome
  | _ => true

/-- Record an option. -/
def give (p : Parsed) (s : Switch) (value : String) : Except Halt Parsed :=
  if s.name == "help" then .error .help
  else if s.name == "version" then .error .version
  else if s.takes != .count && p.has s.name then
    .error (.misuse ("the argument '--" ++ s.name ++ "' cannot be used multiple times"))
  else if isFit value s.takes then .ok { p with given := p.given ++ [(s.name, value)] }
  else .error (.misuse ("invalid value '" ++ value ++ "' for '--" ++ s.name ++ "'"))

/-- Record an operand. -/
def place (form : Form) (p : Parsed) (operand : String) : Except Halt Parsed :=
  match form.operands[p.operands.length]? with
  | none => .error (.misuse ("unexpected argument '" ++ operand ++ "' found"))
  | some takes =>
    if isFit operand takes then .ok { p with operands := p.operands ++ [operand] }
    else .error (.misuse "a value is required but none was supplied")

/-- Record what stands behind two hyphens. -/
def placeRest (form : Form) (p : Parsed) (words : List String) : Except Halt Parsed :=
  if form.takesProgram then .ok { p with program := words }
  else words.foldlM (place form) p

/-- The option takes a value. -/
def takesValue (s : Switch) : Bool := s.takes != .nothing && s.takes != .count

/-- Take a cluster of short options apart; the option that still waits for
its value is told. -/
def cluster (form : Form) (p : Parsed) : List Char → Except Halt (Parsed × Option Switch)
  | [] => .ok (p, none)
  | c :: rest =>
    match form.switches.find? (·.short == some c) with
    | none => .error (.misuse ("unexpected argument '-" ++ String.singleton c ++ "' found"))
    | some s =>
      if takesValue s then
        match rest with
        | [] => .ok (p, some s)
        | '=' :: value => do return (← give p s (String.ofList value), none)
        | value => do return (← give p s (String.ofList value), none)
      else do cluster form (← give p s "") rest

/-- Take a long option apart. -/
def long (form : Form) (p : Parsed) (word : List Char) : Except Halt (Parsed × Option Switch) :=
  let (name, value) := word.span (· != '=')
  match form.switches.find? (·.name == String.ofList name) with
  | none => .error (.misuse ("unexpected argument '--" ++ String.ofList name ++ "' found"))
  | some s =>
    match takesValue s, value with
    | true, [] => .ok (p, some s)
    | true, _ :: value => do return (← give p s (String.ofList value), none)
    | false, [] => do return (← give p s "", none)
    | false, _ :: _ => .error (.misuse ("unexpected value for '--" ++ s.name ++ "' found"))

/-- An option without the value it takes. -/
def unfinished {α : Type} (s : Switch) : Except Halt α :=
  .error (.misuse ("a value is required for '--" ++ s.name ++ "' but none was supplied"))

/-- Take words apart up to one of the `commands`, from which on they are
left. -/
def take (form : Form) (commands : List String) :
    Parsed → Option Switch → List String → Except Halt (Parsed × List String)
  | p, none, [] => .ok (p, [])
  | _, some s, [] => unfinished s
  | p, waiting, word :: rest =>
    match word.toList with
    | '-' :: '-' :: [] =>
      match waiting with
      | some s => unfinished s
      | none => do return (← placeRest form p rest, [])
    | '-' :: '-' :: option =>
      match waiting with
      | some s => unfinished s
      | none => do
        let (p, waiting) ← long form p option
        take form commands p waiting rest
    | '-' :: c :: more =>
      match waiting with
      | some s => unfinished s
      | none => do
        let (p, waiting) ← cluster form p (c :: more)
        take form commands p waiting rest
    | _ =>
      match waiting with
      | some s => do take form commands (← give p s word) none rest
      | none =>
        if commands.contains word then .ok (p, word :: rest)
        else do take form commands (← place form p word) none rest

end CommandLine

end Turnstile
