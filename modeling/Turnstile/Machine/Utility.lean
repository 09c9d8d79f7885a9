import Turnstile.Files.Tree
import Turnstile.Keyed
import Turnstile.Machine.Feed
import Turnstile.Machine.Format
import Turnstile.Text.Lines
/-!
# Utilities

The common programs of the system, each a function from how it was called
to what it did. A utility takes time only if it waits.
-/

namespace Turnstile

/-- How a utility was called. -/
structure Call where
  name : String
  args : List String
  input : Feed
  files : FileTree
  cwd : AbsPath
  env : List (String × String)

/-- What a utility did. -/
structure Effect where
  out : Feed
  err : String
  status : Int
  files : FileTree
  /-- The input it did not read. -/
  rest : Feed
  /-- Milliseconds it took; none means that it never ends. -/
  wait : Option Nat

namespace Call

/-- It printed something and is done. -/
def gives (c : Call) (out : Feed) : Effect := ⟨out, "", 0, c.files, c.input, some 0⟩

/-- It printed a text. -/
def prints (c : Call) (text : String) : Effect := c.gives (.ofString text)

/-- It ended with a status. -/
def ends (c : Call) (status : Int) : Effect := { c.gives .none with status }

/-- It complained. -/
def fails (c : Call) (status : Int) (text : String) : Effect :=
  { c.ends status with err := c.name ++ ": " ++ text ++ "\n" }

/-- It was called in a way it does not know. -/
def misused (c : Call) (text : String) : Effect :=
  c.fails 1 (text ++ "\nTry '" ++ c.name ++ " --help' for more information.")

/-- It changed the files. -/
def leaves (c : Call) (files : FileTree) : Effect := { c.gives .none with files }

/-- It read all of its input, which it can only do if that ends. -/
def drains (c : Call) (e : Effect) : Effect :=
  { e with rest := .none, wait := if c.input.ends then e.wait else none }

/-- The words of the system for a failure. -/
def words (f : FileFailure) : String := (f.system?.map (·.1)).getD f.message

/-- What a path leads to as a feed. -/
def open_ (c : Call) (path : String) : Except FileFailure Feed :=
  match c.files.stat c.cwd path with
  | .error e => .error e
  | .ok (_, .directory) => .error .isDirectory
  | .ok (_, .file content _) => .ok (.ofBytes content)
  | .ok (p, .device) => .ok (if p.getLast? = some "zero" then .forever [0] else .none)
  | .ok _ => .ok .none

/-- The named files one after another, or the input if none is named. The
second part are complaints. -/
def inputs (c : Call) (paths : List String) : Feed × String :=
  if paths.isEmpty then (c.input, "")
  else
    paths.foldl (fun (feed, err) path =>
      if path == "-" then (feed.append c.input, err)
      else
        match c.open_ path with
        | .ok more => (feed.append more, err)
        | .error e => (feed, err ++ c.name ++ ": " ++ path ++ ": " ++ words e ++ "\n"))
      (Feed.none, "")

/-- Print a feed made of the inputs, with what was complained about. -/
def pours (c : Call) (paths : List String) (make : Feed → Feed) : Effect :=
  let (feed, err) := c.inputs paths
  { c.gives (make feed) with
    err
    status := if err.isEmpty then 0 else 1
    rest := if paths.isEmpty then .none else c.input
    wait := if feed.ends then some 0 else none }

end Call

namespace Utility

/-- A number in front of an option's text. -/
def nat? (s : String) : Option Nat :=
  if s.isEmpty || !s.toList.all Char.isDigit then none
  else some (s.toList.foldl (fun n c => n * 10 + (c.toNat - 48)) 0)

/-- Options are single letters behind a hyphen; the rest are operands. -/
def letters (args : List String) : List Char × List String :=
  let isOption (a : String) : Bool := Text.startsWith a "-" && 1 < a.length
  let (options, rest) := args.span isOption
  (options.flatMap fun o => o.toList.tail, if rest.head? = some "--" then rest.tail else rest)

/-- Print arguments with blanks between them. `escaped` undoes escapes
unless told otherwise. -/
def echo (escaped : Bool) (c : Call) : Effect :=
  let isFlag (a : String) : Bool :=
    if escaped then a == "-n"
    else Text.startsWith a "-" && 1 < a.length && a.toList.tail.all fun f => "neE".toList.contains f
  let (flags, words) :=
    if escaped then (c.args.take 1 |>.filter isFlag, if c.args.head?.any isFlag then c.args.tail else c.args)
    else c.args.span isFlag
  let has (f : Char) : Bool := flags.any fun a => a.toList.contains f
  let text := Text.join " " words
  let (bytes, stop) :=
    if escaped || has 'e' then Format.unescape true text else (Utf8.encode text, false)
  c.gives (.ofBytes (if stop || has 'n' then bytes else bytes ++ [10]))

/-- Print by a format. -/
def printf (c : Call) : Effect :=
  match c.args with
  | [] => c.misused "missing operand"
  | format :: args => c.gives (.ofBytes (Format.printf format (args.length + 1) args))

/-- How many lines or bytes are wanted: the count, whether bytes, whether
counted from the start, and the operands. -/
def counted : Nat × Bool × Bool → List String → Option ((Nat × Bool × Bool) × List String)
  | state, [] => some (state, [])
  | state, [arg] => one state arg []
  | state, arg :: value :: rest =>
    if arg == "-n" || arg == "-c" then do
      let from_ := Text.startsWith value "+"
      let digits := String.ofList (value.toList.dropWhile fun c => c == '+' || c == '-')
      counted (← nat? digits, arg == "-c", from_) rest
    else one state arg (value :: rest)
where
  one (state : Nat × Bool × Bool) (arg : String) (rest : List String) :
      Option ((Nat × Bool × Bool) × List String) :=
    match arg.toList with
    | '-' :: 'n' :: digits => do some ((← nat? (String.ofList digits), false, false), rest)
    | '-' :: 'c' :: digits => do some ((← nat? (String.ofList digits), true, false), rest)
    | '-' :: d :: digits =>
      if d.isDigit then do some ((← nat? (String.ofList (d :: digits)), false, false), rest)
      else none
    | _ => some (state, arg :: rest)

/-- How many bytes a program reads at once that looks for line ends. -/
def block : Nat := 8192

/-- The first lines or bytes. Whole blocks are read when lines are wanted. -/
def head (c : Call) : Effect :=
  match counted (10, false, false) c.args with
  | none => c.fails 1 "invalid option"
  | some ((n, bytes, _), paths) =>
    let (feed, err) := c.inputs paths
    let (front, back) := if bytes then feed.cut n else feed.cutLines n
    let back := if bytes then back else (back.cut (block - front.length % block)).2
    { c.gives (.ofBytes front) with
      err
      status := if err.isEmpty then 0 else 1
      rest := if paths.isEmpty then back else c.input }

/-- The last lines or bytes, or all from a place on. -/
def tail (c : Call) : Effect :=
  match counted (10, false, false) c.args with
  | none => c.fails 1 "invalid option"
  | some ((n, bytes, from_), paths) =>
    c.pours paths fun feed =>
      if bytes then
        .ofBytes (feed.bytes.drop (if from_ then n - 1 else feed.bytes.length - n))
      else
        let lines := Feed.splitLines feed.bytes
        .ofBytes (lines.drop (if from_ then n - 1 else lines.length - n)).flatten

/-- A number behind blanks. -/
def padded (width n : Nat) : String :=
  let s := toString n
  String.ofList (List.replicate (width - s.length) ' ') ++ s

/-- Count lines, words and bytes. -/
def wc (c : Call) : Effect :=
  let (flags, paths) := letters c.args
  let (feed, err) := c.inputs paths
  let words (bytes : Bytes) : Nat :=
    ((Text.splitListAt (fun b => b == 32 || (9 ≤ b && b ≤ 13)) bytes).filter (!·.isEmpty)).length
  let bytes := feed.bytes
  let has (f : Char) (n : Nat) : List Nat := if flags.isEmpty || flags.contains f then [n] else []
  let counts := has 'l' (bytes.count 10) ++ has 'w' (words bytes) ++
    (if flags.contains 'm' then [(Utf8.decodeLossy bytes).length] else []) ++
    has 'c' bytes.length
  let width :=
    if counts.length = 1 then 1
    else if paths.isEmpty then 7 else (toString bytes.length).length
  let line := Text.join " " (counts.map (padded width)) ++
    (paths.head?.map (" " ++ ·)).getD "" ++ "\n"
  { c.prints line with
    err, status := if err.isEmpty then 0 else 1, rest := .none
    wait := if feed.ends then some 0 else none }

/-- The bytes a set of characters stands for. -/
def charSet : Nat → List Char → List UInt8
  | 0, _ => []
  | _, [] => []
  | n + 1, cs =>
    let class? : Option (Nat × List UInt8) :=
      let range (a b : Nat) : List UInt8 := (List.range (b + 1 - a)).map fun i => UInt8.ofNat (a + i)
      ([("[:upper:]", range 65 90), ("[:lower:]", range 97 122), ("[:digit:]", range 48 57),
        ("[:alpha:]", range 65 90 ++ range 97 122),
        ("[:alnum:]", range 48 57 ++ range 65 90 ++ range 97 122),
        ("[:space:]", range 9 13 ++ [32])].find? fun p => p.1.toList.isPrefixOf cs).map
          fun p => (p.1.length, p.2)
    match class? with
    | some (taken, bytes) => bytes ++ charSet n (cs.drop taken)
    | none =>
      let (first, rest) := one cs
      match first, rest with
      | [a], '-' :: d :: more =>
        match one (d :: more) with
        | ([b], rest) =>
          (List.range (b.toNat + 1 - a.toNat)).map (fun i => UInt8.ofNat (a.toNat + i)) ++ charSet n rest
        | (other, rest) => a :: 45 :: other ++ charSet n rest
      | bytes, rest => bytes ++ charSet n rest
where
  one : List Char → List UInt8 × List Char
    | '\\' :: c :: rest =>
      if (Format.digit? 8 c).isSome then
        let (value, rest) := Format.digits 8 3 (c :: rest) 0
        ([UInt8.ofNat value], rest)
      else
        match Format.letter? c with
        | some b => ([b], rest)
        | none => (Format.bytesOf c, rest)
    | c :: rest => (Format.bytesOf c, rest)
    | [] => ([], [])

/-- Change, drop or squeeze bytes. -/
def tr (c : Call) : Effect :=
  let (flags, sets) := letters c.args
  let set (s : String) : List UInt8 := charSet (s.length + 1) s.toList
  match sets with
  | [] => c.misused "missing operand"
  | first :: more =>
    let source := set first
    let inSource (b : UInt8) : Bool :=
      if flags.contains 'c' then !source.contains b else source.contains b
    if flags.contains 'd' then
      c.pours [] fun feed => feed.flatMap fun b => if inSource b then [] else [b]
    else if flags.contains 's' && more.isEmpty then
      c.pours [] fun feed =>
        ⟨feed.bytes.foldr (fun b out => if inSource b && out.head? = some b then out else b :: out) [],
          feed.cycle⟩
    else
      let target := set (more.headD "")
      c.pours [] fun feed => feed.flatMap fun b =>
        if inSource b then
          if flags.contains 'c' then [target.getLastD b]
          else [target.getD (source.idxOf b) (target.getLastD b)]
        else [b]

/-- The milliseconds a duration stands for; none is for ever. -/
def duration? (s : String) : Option (Option Nat) :=
  if s == "infinity" || s == "inf" then some none
  else
    let cs := s.toList
    let (cs, unit) : List Char × Nat := match cs.getLast? with
      | some 's' => (cs.dropLast, 1000)
      | some 'm' => (cs.dropLast, 60000)
      | some 'h' => (cs.dropLast, 3600000)
      | some 'd' => (cs.dropLast, 86400000)
      | _ => (cs, 1000)
    let (whole, rest) := cs.span Char.isDigit
    let fraction := rest.drop 1
    if (whole.isEmpty && fraction.isEmpty) || !fraction.all Char.isDigit ||
        !(rest.isEmpty || rest.head? = some '.') then none
    else
      let value (ds : List Char) : Nat := ds.foldl (fun n c => n * 10 + (c.toNat - 48)) 0
      some (some (value whole * unit + value fraction * unit / Nat.pow 10 fraction.length))

/-- Wait. -/
def sleep (c : Call) : Effect :=
  match c.args.mapM duration? with
  | none => c.misused ("invalid time interval '" ++ c.args.headD "" ++ "'")
  | some [] => c.misused "missing operand"
  | some times =>
    { c.ends 0 with
      wait := times.foldl (fun total t => do return (← total) + (← t)) (some 0) }

/-- Count from one number to another. -/
def seq (c : Call) : Effect :=
  let run (first step last : Int) : Effect :=
    let count := if step = 0 then 0 else ((last - first) / step + 1).toNat
    let line (i : Nat) : String := toString (first + step * (i : Int)) ++ "\n"
    c.prints (String.join ((List.range count).map line))
  match c.args.mapM Format.integer? with
  | some [last] => run 1 1 last
  | some [first, last] => run first 1 last
  | some [first, step, last] => run first step last
  | _ => c.fails 1 "invalid argument"

/-- Texts in order of their code points. -/
def inOrder (names : List String) : List String := names.mergeSort fun a b => decide (a ≤ b)

/-- List names. -/
def ls (c : Call) : Effect :=
  let (flags, paths) := letters c.args
  let visible (name : String) : Bool :=
    flags.contains 'a' || flags.contains 'A' || !Text.startsWith name "."
  let listing (p : AbsPath) : String :=
    let names := inOrder ((c.files.children p).filter visible)
    String.join (((if flags.contains 'a' then [".", ".."] else []) ++ names).map (· ++ "\n"))
  let paths := if paths.isEmpty then ["."] else paths
  paths.foldl (fun e path =>
    match c.files.stat c.cwd path with
    | .ok (p, .directory) =>
      let shown := if flags.contains 'd' then path ++ "\n" else listing p
      let heading := if paths.length ≤ 1 || flags.contains 'd' then "" else path ++ ":\n"
      { e with out := e.out.append (.ofString (heading ++ shown)) }
    | .ok _ => { e with out := e.out.append (.ofString (path ++ "\n")) }
    | .error f =>
      { e with
        err := e.err ++ "ls: cannot access '" ++ path ++ "': " ++ Call.words f ++ "\n"
        status := 2 })
    (c.ends 0)

/-- Change files path by path; the first failure of each is complained about. -/
def each (c : Call) (paths : List String) (verb : String)
    (change : FileTree → String → Except FileFailure FileTree) : Effect :=
  paths.foldl (fun e path =>
    match change e.files path with
    | .ok files => { e with files }
    | .error f =>
      { e with
        err := e.err ++ c.name ++ ": " ++ verb ++ " '" ++ path ++ "': " ++ Call.words f ++ "\n"
        status := 1 })
    (c.ends 0)

/-- Create directories. -/
def mkdir (c : Call) : Effect :=
  let (flags, paths) := letters c.args
  each c paths "cannot create directory" fun files path =>
    if flags.contains 'p' then
      match files.createDirectories c.cwd path with
      | (files, none) => .ok files
      | (_, some e) => .error e
    else files.createDirectory c.cwd path

/-- Remove what is at a path, and what is below it if `deep`. -/
def removeAt (cwd : AbsPath) (deep force : Bool) (files : FileTree) (path : String) :
    Except FileFailure FileTree :=
  match files.lookUp false cwd path with
  | .error .notFound => if force then .ok files else .error .notFound
  | .error e => .error e
  | .ok (p, .directory) =>
    if deep then .ok ⟨files.entries.filter fun e => !p.isPrefixOf e.1⟩ else .error .isDirectory
  | .ok (p, _) => .ok (files.remove p)

/-- Remove files. -/
def rm (c : Call) : Effect :=
  let (flags, paths) := letters c.args
  each c paths "cannot remove"
    (removeAt c.cwd (flags.contains 'r' || flags.contains 'R') (flags.contains 'f'))

/-- Remove empty directories. -/
def rmdir (c : Call) : Effect :=
  each c c.args "failed to remove" fun files path =>
    match files.lookUp false c.cwd path with
    | .error e => .error e
    | .ok (p, .directory) =>
      if (files.children p).isEmpty then .ok (files.remove p) else .error .notEmpty
    | .ok _ => .error .notDirectory

/-- Create files that do not exist. -/
def touch (c : Call) : Effect :=
  each c (letters c.args).2 "cannot touch" fun files path =>
    if files.pathExists c.cwd path then .ok files else files.write c.cwd path true []

/-- Copy the input to files and on. -/
def tee (c : Call) : Effect :=
  let (flags, paths) := letters c.args
  let e := each c paths "cannot open" fun files path =>
    files.write c.cwd path (flags.contains 'a') c.input.bytes
  c.drains { e with out := c.input }

/-- The lines of the inputs changed as a whole. -/
def lineWise (c : Call) (paths : List String) (f : List Bytes → List Bytes) : Effect :=
  c.pours paths fun feed =>
    let lines := (Feed.splitLines feed.bytes).map fun l =>
      if l.getLast? = some 10 then l.dropLast else l
    .ofBytes ((f lines).flatMap (· ++ [10]))

/-- The number in front of a line. -/
def leading (line : Bytes) : Int :=
  let cs := (Utf8.decodeLossy line).toList.dropWhile (· == ' ')
  let (negative, cs) := if cs.head? = some '-' then (true, cs.tail) else (false, cs)
  let n : Int := (Format.digits 10 cs.length cs 0).1
  if negative then -n else n

/-- Sort lines. -/
def sort (c : Call) : Effect :=
  let (flags, paths) := letters c.args
  lineWise c paths fun lines =>
    let before (a b : Bytes) : Bool :=
      if flags.contains 'n' then leading a < leading b || (leading a == leading b && decide (a ≤ b))
      else decide (a ≤ b)
    let sorted := lines.mergeSort before
    let sorted := if flags.contains 'r' then sorted.reverse else sorted
    if flags.contains 'u' then sorted.eraseReps else sorted

/-- A line holds a text; the text may be bound to the ends of the line. -/
def holds (pattern line : String) : Bool :=
  let (atStart, body) := match Text.strip? "^" pattern with
    | some rest => (true, rest)
    | none => (false, pattern)
  let (atEnd, body) :=
    if Text.endsWith body "$" then (true, String.ofList body.toList.dropLast) else (false, body)
  match atStart, atEnd with
  | true, true => line == body
  | true, false => Text.startsWith line body
  | false, true => Text.endsWith line body
  | false, false => Text.contains line body

/-- Lines that hold a text. -/
def grep (c : Call) : Effect :=
  let (flags, operands) := letters c.args
  match operands with
  | [] => c.fails 2 "missing pattern"
  | pattern :: paths =>
    let (feed, err) := c.inputs paths
    let fold (s : String) : String := if flags.contains 'i' then s.toLower else s
    let lines := (Feed.splitLines feed.bytes).map fun l =>
      if l.getLast? = some 10 then l.dropLast else l
    let kept := lines.filter fun l =>
      holds (fold pattern) (fold (Utf8.decodeLossy l)) != flags.contains 'v'
    let out : Feed :=
      if flags.contains 'q' then .none
      else if flags.contains 'c' then .ofString (toString kept.length ++ "\n")
      else .ofBytes (kept.flatMap (· ++ [10]))
    { c.gives out with
      err
      status := if !err.isEmpty then 2 else if kept.isEmpty then 1 else 0
      rest := .none
      wait := if feed.ends then some 0 else none }

/-! ## Tests -/

/-- A test of one operand. -/
def unary (c : Call) (op operand : String) : Option Bool :=
  let entry (follow : Bool) := (c.files.lookUp follow c.cwd operand).toOption.map (·.2)
  match op with
  | "-n" => some (!operand.isEmpty)
  | "-z" => some operand.isEmpty
  | "-e" => some (entry true).isSome
  | "-f" => some ((entry true).any Entry.isFile)
  | "-d" => some ((entry true) == some .directory)
  | "-h" | "-L" => some ((entry false).any Entry.isLink)
  | "-r" | "-w" => some (entry true).isSome
  | "-x" => some ((entry true).any fun
      | .file _ x => x
      | .directory | .program _ => true
      | _ => false)
  | "-s" => some ((entry true).any fun
      | .file content _ => !content.isEmpty
      | .device => false
      | _ => true)
  | "-t" => some false
  | _ => none

/-- A test of two operands. -/
def binary (a op b : String) : Option Bool :=
  let numbers (f : Int → Int → Bool) : Option Bool := do
    return f (← Format.integer? a) (← Format.integer? b)
  match op with
  | "=" | "==" => some (a == b)
  | "!=" => some (a != b)
  | "<" => some (decide (a < b))
  | ">" => some (decide (b < a))
  | "-eq" => numbers (· == ·)
  | "-ne" => numbers (· != ·)
  | "-lt" => numbers (fun x y => decide (x < y))
  | "-le" => numbers (fun x y => decide (x ≤ y))
  | "-gt" => numbers (fun x y => decide (y < x))
  | "-ge" => numbers (fun x y => decide (y ≤ x))
  | _ => none

/-- The value of a test. Fuel is the number of operands. -/
def holdsTest (c : Call) : Nat → List String → Option Bool
  | 0, _ => none
  | n + 1, args =>
    match args with
    | [] => some false
    | [a] => some (!a.isEmpty)
    | ["!", a] => some a.isEmpty
    | [op, a] => unary c op a
    | [a, op, b] =>
      match binary a op b with
      | some v => some v
      | none => if a == "!" then (holdsTest c n [op, b]).map (!·) else joined n args
    | args =>
      if args.head? = some "!" then (holdsTest c n args.tail).map (!·) else joined n args
where
  joined (n : Nat) (args : List String) : Option Bool :=
    match args.span (· != "-o") with
    | (left, _ :: right) => do return (← holdsTest c n left) || (← holdsTest c n right)
    | _ =>
      match args.span (· != "-a") with
      | (left, _ :: right) => do return (← holdsTest c n left) && (← holdsTest c n right)
      | _ => none

/-- Test operands; `bracket` wants a closing one. -/
def test (bracket : Bool) (c : Call) : Effect :=
  let args := if bracket then c.args.dropLast else c.args
  if bracket && c.args.getLast? != some "]" then c.fails 2 "missing ]"
  else
    match holdsTest c (args.length + 2) args with
    | some v => c.ends (if v then 0 else 1)
    | none => c.fails 2 (args.headD "" ++ ": unexpected operator")

/-- The values of variables. -/
def printenv (c : Call) : Effect :=
  let values := if c.args.isEmpty then c.env.map fun v => v.1 ++ "=" ++ v.2
    else c.args.filterMap fun name => Keyed.find? name c.env
  { c.prints (String.join (values.map (· ++ "\n"))) with
    status := if values.length < c.args.length then 1 else 0 }

/-- The last name of a path, without an ending. -/
def basename (c : Call) : Effect :=
  let name := (Path.fileName? (c.args.headD "")).getD (c.args.headD "")
  let ending := c.args.getD 1 ""
  let kept :=
    if Text.endsWith name ending && name != ending then
      String.ofList (name.toList.take (name.length - ending.length))
    else name
  c.prints (kept ++ "\n")

/-- A path without its last name. -/
def dirname (c : Call) : Effect :=
  let parent := (Path.parent? (c.args.headD "")).getD "/"
  c.prints ((if parent.isEmpty then "." else parent) ++ "\n")

/-! ## The utilities by name -/

/-- The utilities. -/
def all : List (String × (Call → Effect)) :=
  [("true", fun c => c.ends 0), ("false", fun c => c.ends 1), ("echo", echo false), ("printf", printf),
    ("cat", fun c => c.pours (letters c.args).2 id), ("head", head), ("tail", tail), ("wc", wc),
    ("tr", tr),
    ("yes", fun c =>
      { c.gives (.forever (Utf8.encode
          ((if c.args.isEmpty then "y" else Text.join " " c.args) ++ "\n"))) with wait := none }),
    ("sleep", sleep), ("seq", seq), ("ls", ls), ("mkdir", mkdir), ("rm", rm), ("rmdir", rmdir),
    ("touch", touch), ("tee", tee), ("sort", sort), ("grep", grep),
    ("pwd", fun c => c.prints (c.cwd.text ++ "\n")), ("test", test false), ("[", test true),
    ("printenv", printenv), ("basename", basename), ("dirname", dirname), ("kill", fun c => c.ends 0)]

/-- The utility of a name. -/
def find? (name : String) : Option (Call → Effect) := (all.find? (·.1 == name)).map (·.2)

end Utility

end Turnstile
