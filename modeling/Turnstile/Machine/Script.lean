import Turnstile.Text.Blank
/-!
# Shell scripts

The scripts that `sh` runs, as trees, and reading them. Words keep how
they are quoted, because what an unquoted expansion gives is split into
fields. The parser takes fuel, which the length of the text gives.
-/

namespace Turnstile

namespace Script

mutual

/-- A part of a word. -/
inductive Piece where
  | text (s : String) (quoted : Bool)
  /-- A parameter; the operator says what becomes of its value. -/
  | param (name operator : String) (word : List Piece) (quoted : Bool)
  | command (body : List Job) (quoted : Bool)
  | sum (word : List Piece) (quoted : Bool)

/-- Where a stream goes or comes from. -/
inductive Redirect where
  | mk (fd : Nat) (operator : String) (target : List Piece)

/-- A command. -/
inductive Command where
  /-- Variables, words and redirections; `below` counts the line ends after it. -/
  | simple (settings : List (String × List Piece)) (words : List (List Piece))
      (redirects : List Redirect) (below : Nat)
  /-- Between parentheses, in a shell of its own, or between braces. -/
  | group (apart : Bool) (body : List Job) (redirects : List Redirect)
  | choice (branches : List (List Job × List Job)) (otherwise : List Job)
      (redirects : List Redirect)
  | each (name : String) (words : Option (List (List Piece))) (body : List Job)
      (redirects : List Redirect)
  | loop (while_ : Bool) (test body : List Job) (redirects : List Redirect)
  | select (word : List Piece) (arms : List (List (List Piece) × List Job))
      (redirects : List Redirect)
  | define (name : String) (body : Command)

/-- Commands whose streams are joined. -/
inductive Pipeline where
  | mk (negated : Bool) (commands : List Command)

/-- Pipelines joined by `&&` (`true`) and `||`. -/
inductive Job where
  | mk (background : Bool) (first : Pipeline) (rest : List (Bool × Pipeline))

end

/-- A word. -/
abbrev Word := List Piece

/-- What is left of a script. -/
abbrev Input := List Char

/-- A character that ends an unquoted word. -/
def endsWord (c : Char) : Bool := " \t\n;&|<>()".toList.contains c

/-- A character a name starts with. -/
def startsName (c : Char) : Bool := c.isAlpha || c == '_'

/-- A character of a name. -/
def inName (c : Char) : Bool := c.isAlphanum || c == '_'

/-- A parameter whose name is one mark. -/
def isMark (c : Char) : Bool := "@*#?$!-0123456789".toList.contains c

/-- Blanks, joined lines and a comment. -/
def skipBlanks : Input → Input
  | '\\' :: '\n' :: rest => skipBlanks rest
  | '#' :: rest => rest.dropWhile (· != '\n')
  | c :: rest => if c == ' ' || c == '\t' then skipBlanks rest else c :: rest
  | [] => []

/-- Blanks and line ends. -/
def skipLines : Nat → Input → Input
  | 0, cs => cs
  | n + 1, cs =>
    match skipBlanks cs with
    | '\n' :: rest => skipLines n rest
    | cs => cs

/-- A text between single quotes. -/
def singleQuoted : Input → Except String (List Char × Input)
  | [] => .error "Unterminated quoted string"
  | '\'' :: rest => .ok ([], rest)
  | c :: rest => (singleQuoted rest).map fun p => (c :: p.1, p.2)

/-- A text between backquotes. -/
def backQuoted : Input → Except String (List Char × Input)
  | [] => .error "EOF in backquote substitution"
  | '`' :: rest => .ok ([], rest)
  | '\\' :: c :: rest =>
    (backQuoted rest).map fun p =>
      (if "$`\\".toList.contains c then c :: p.1 else '\\' :: c :: p.1, p.2)
  | c :: rest => (backQuoted rest).map fun p => (c :: p.1, p.2)

/-- A sum up to its two closing parentheses. -/
def sumText : Nat → Input → Except String (List Char × Input)
  | _, [] => .error "Missing '))'"
  | 0, ')' :: ')' :: rest => .ok ([], rest)
  | depth + 1, ')' :: rest => (sumText depth rest).map fun p => (')' :: p.1, p.2)
  | depth, '(' :: rest => (sumText (depth + 1) rest).map fun p => ('(' :: p.1, p.2)
  | depth, c :: rest => (sumText depth rest).map fun p => (c :: p.1, p.2)

/-- The operators between a parameter's name and its word, longest first. -/
def operators : List String := [":-", ":=", ":+", ":?", "##", "%%", "-", "=", "+", "?", "#", "%"]

/-- Words that end a list of commands. -/
def closers : List String := ["then", "do", "done", "fi", "else", "elif", "esac", "\x7d"]

/-- The word in front, if it is a plain one. -/
def plainWord (cs : Input) : String × Input :=
  let (word, rest) := cs.span fun c => !endsWord c
  (String.ofList word, rest)

/-- The word in front is this one. -/
def isNext (word : String) (cs : Input) : Bool := (plainWord cs).1 == word

/-- A name for what is in front, as complaints give it. -/
def token (cs : Input) : String :=
  match cs with
  | [] => "end of file"
  | '\n' :: _ => "newline"
  | '<' :: _ | '>' :: _ => "redirection"
  | c :: _ =>
    match ["&&", "||", ";;", "&", "|", ";", "(", ")"].find? (·.toList.isPrefixOf cs) with
    | some mark => "\"" ++ mark ++ "\""
    | none =>
      let word := (plainWord (c :: cs.tail)).1
      if ("!" :: "\x7b" :: "case" :: "for" :: "if" :: "in" :: "until" :: "while" :: closers).contains word
      then "\"" ++ word ++ "\"" else "word"

/-- What is in front may not be there; `wanted` may be. -/
def unexpected {α : Type} (cs : Input) (wanted : Option String := none) : Except String α :=
  .error (token cs ++ " unexpected" ++
    match wanted with
    | some word => " (expecting \"" ++ word ++ "\")"
    | none => "")

/-- What follows a word that must be there. -/
def expect (word : String) (cs : Input) : Except String (Unit × Input) :=
  if isNext word cs then .ok ((), (plainWord cs).2) else unexpected cs (some word)

/-- A redirection in front: the stream, the operator and the rest. -/
def redirection? (cs : Input) : Option (Nat × String × Input) :=
  let (digits, rest) := cs.span Char.isDigit
  let fd (usual : Nat) : Nat :=
    if digits.isEmpty then usual else digits.foldl (fun n c => n * 10 + (c.toNat - 48)) 0
  match rest with
  | '>' :: '>' :: rest => some (fd 1, ">>", rest)
  | '>' :: '&' :: rest => some (fd 1, ">&", rest)
  | '>' :: '|' :: rest => some (fd 1, ">", rest)
  | '>' :: rest => some (fd 1, ">", rest)
  | '<' :: '<' :: _ => none
  | '<' :: '&' :: rest => some (fd 0, "<&", rest)
  | '<' :: rest => some (fd 0, "<", rest)
  | _ => none

/-- A variable set in front of a command: its name and the rest. -/
def assignment? (cs : Input) : Option (String × Input) :=
  match cs with
  | c :: _ =>
    if startsName c then
      match cs.span inName with
      | (name, '=' :: rest) => some (String.ofList name, rest)
      | _ => none
    else none
  | [] => none

mutual

/-- The pieces of a word up to where `stop` holds; `quoted` is inside
double quotes. -/
def pieces (stop : Char → Bool) (quoted : Bool) : Nat → Input → Except String (Word × Input)
  | 0, _ => .error "too long"
  | n + 1, cs => do
    let more (p : Piece) (rest : Input) : Except String (Word × Input) := do
      let (ps, rest) ← pieces stop quoted n rest
      return (p :: ps, rest)
    match cs with
    | [] => if quoted then .error "Unterminated quoted string" else .ok ([], [])
    | '$' :: rest => do
      let (p, rest) ← dollar quoted n rest
      more p rest
    | '`' :: rest => do
      let (script, rest) ← backQuoted rest
      let (body, _) ← jobs n script
      more (.command body quoted) rest
    | '\\' :: '\n' :: rest => pieces stop quoted n rest
    | '\\' :: c :: rest =>
      if quoted && !"$`\"\\".toList.contains c then
        more (.text (String.ofList ['\\', c]) true) rest
      else more (.text (String.singleton c) true) rest
    | c :: rest =>
      if stop c then .ok ([], cs)
      else if quoted then more (.text (String.singleton c) true) rest
      else if c == '\'' then do
        let (text, rest) ← singleQuoted rest
        more (.text (String.ofList text) true) rest
      else if c == '"' then do
        let (inner, rest) ← pieces (· == '"') true n rest
        let (ps, rest) ← pieces stop quoted n (rest.drop 1)
        return (.text "" true :: inner ++ ps, rest)
      else more (.text (String.singleton c) false) rest

/-- What follows a dollar sign. -/
def dollar (quoted : Bool) : Nat → Input → Except String (Piece × Input)
  | 0, _ => .error "too long"
  | n + 1, cs =>
    match cs with
    | '(' :: '(' :: rest => do
      let (text, rest) ← sumText 0 rest
      let (word, _) ← pieces (fun _ => false) false n text
      return (.sum word quoted, rest)
    | '(' :: rest => do
      let (body, rest) ← jobs n rest
      match skipLines rest.length rest with
      | ')' :: rest => return (.command body quoted, rest)
      | rest => unexpected rest (some ")")
    | '\x7b' :: rest =>
      let close (name : String) (rest : Input) : Except String (Piece × Input) := do
        match operators.find? fun op => op.toList.isPrefixOf rest with
        | some op =>
          let (word, rest) ← pieces (· == '\x7d') false n (rest.drop op.length)
          match rest with
          | '\x7d' :: rest => return (.param name op word quoted, rest)
          | _ => .error "Missing '\x7d'"
        | none =>
          match rest with
          | '\x7d' :: rest => return (.param name "" [] quoted, rest)
          | _ => .error "Bad substitution"
      match rest with
      | '#' :: '\x7d' :: rest => .ok (.param "#" "" [] quoted, rest)
      | '#' :: rest =>
        let (name, rest) := rest.span fun c => inName c
        match rest with
        | '\x7d' :: rest => .ok (.param (String.ofList name) "length" [] quoted, rest)
        | _ => .error "Bad substitution"
      | c :: tail =>
        if startsName c then
          let (name, rest) := rest.span inName
          close (String.ofList name) rest
        else if c.isDigit then
          let (name, rest) := rest.span Char.isDigit
          close (String.ofList name) rest
        else if isMark c then close (String.singleton c) tail
        else .error "Bad substitution"
      | [] => .error "Missing '\x7d'"
    | c :: rest =>
      if startsName c then
        let (name, rest) := cs.span inName
        .ok (.param (String.ofList name) "" [] quoted, rest)
      else if isMark c then .ok (.param (String.singleton c) "" [] quoted, rest)
      else .ok (.text "$" quoted, cs)
    | [] => .ok (.text "$" quoted, [])

/-- Redirections after a command. -/
def redirects : Nat → Input → Except String (List Redirect × Input)
  | 0, _ => .error "too long"
  | n + 1, cs =>
    match redirection? (skipBlanks cs) with
    | none => .ok ([], cs)
    | some (fd, op, rest) => do
      let (target, rest) ← pieces endsWord false n (skipBlanks rest)
      let (more, rest) ← redirects n rest
      return (.mk fd op target :: more, rest)

/-- Variables, words and redirections of a simple command. -/
def simple (settings : List (String × Word)) (words : List Word) (redirs : List Redirect) :
    Nat → Input → Except String (Command × Input)
  | 0, _ => .error "too long"
  | n + 1, cs =>
    let cs := skipBlanks cs
    match redirection? cs with
    | some (fd, op, rest) => do
      let (target, rest) ← pieces endsWord false n (skipBlanks rest)
      simple settings words (redirs ++ [.mk fd op target]) n rest
    | none =>
      match cs with
      | [] => .ok (.simple settings words redirs 0, [])
      | c :: _ =>
        if endsWord c then .ok (.simple settings words redirs (cs.count '\n'), cs)
        else
          match if words.isEmpty then assignment? cs else none with
          | some (name, rest) => do
            let (word, rest) ← pieces endsWord false n rest
            simple (settings ++ [(name, word)]) words redirs n rest
          | none => do
            let (word, rest) ← pieces endsWord false n cs
            simple settings (words ++ [word]) redirs n rest

/-- The words of a list, up to a line end or a semicolon. -/
def wordList : Nat → Input → Except String (List Word × Input)
  | 0, _ => .error "too long"
  | n + 1, cs =>
    match skipBlanks cs with
    | [] => .ok ([], [])
    | c :: rest =>
      if endsWord c then .ok ([], c :: rest)
      else do
        let (word, rest) ← pieces endsWord false n (c :: rest)
        let (more, rest) ← wordList n rest
        return (word :: more, rest)

/-- The arms of a selection, up to its end. -/
def arms : Nat → Input → Except String ((List (List Word × List Job)) × Input)
  | 0, _ => .error "too long"
  | n + 1, cs => do
    let cs := skipLines (cs.length + 1) cs
    if isNext "esac" cs then return ([], (plainWord cs).2)
    let cs := match cs with
      | '(' :: rest => rest
      | cs => cs
    let (patterns, rest) ← alternatives n cs
    let (body, rest) ← jobs n rest
    let rest := skipLines (rest.length + 1) rest
    match rest with
    | ';' :: ';' :: rest =>
      let (more, rest) ← arms n rest
      return ((patterns, body) :: more, rest)
    | _ =>
      if isNext "esac" rest then return ([(patterns, body)], (plainWord rest).2)
      else unexpected rest (some ";;")

/-- Patterns up to their closing parenthesis. -/
def alternatives : Nat → Input → Except String (List Word × Input)
  | 0, _ => .error "too long"
  | n + 1, cs => do
    let (word, rest) ← pieces endsWord false n (skipBlanks cs)
    match skipBlanks rest with
    | '|' :: rest =>
      let (more, rest) ← alternatives n rest
      return (word :: more, rest)
    | ')' :: rest => return ([word], rest)
    | rest => unexpected rest (some ")")

/-- What follows the test of a choice. -/
def branches : Nat → Input → Except String ((List (List Job × List Job) × List Job) × Input)
  | 0, _ => .error "too long"
  | n + 1, cs => do
    let (test, rest) ← jobs n cs
    let (_, rest) ← expect "then" (skipLines (rest.length + 1) rest)
    let (body, rest) ← jobs n rest
    let rest := skipLines (rest.length + 1) rest
    if isNext "elif" rest then
      let ((more, other), rest) ← branches n (plainWord rest).2
      return (((test, body) :: more, other), rest)
    else if isNext "else" rest then
      let (other, rest) ← jobs n (plainWord rest).2
      let (_, rest) ← expect "fi" (skipLines (rest.length + 1) rest)
      return (([(test, body)], other), rest)
    else
      let (_, rest) ← expect "fi" rest
      return (([(test, body)], []), rest)

/-- The body of a loop. -/
def loopBody : Nat → Input → Except String (List Job × Input)
  | 0, _ => .error "too long"
  | n + 1, cs => do
    let (_, rest) ← expect "do" (skipLines (cs.length + 1) cs)
    let (body, rest) ← jobs n rest
    let (_, rest) ← expect "done" (skipLines (rest.length + 1) rest)
    return (body, rest)

/-- A command. -/
def command : Nat → Input → Except String (Command × Input)
  | 0, _ => .error "too long"
  | n + 1, cs => do
    let cs := skipBlanks cs
    match cs with
    | '(' :: rest =>
      let (body, rest) ← jobs n rest
      match skipLines (rest.length + 1) rest with
      | ')' :: rest =>
        let (rs, rest) ← redirects n rest
        return (.group true body rs, rest)
      | rest => unexpected rest (some ")")
    | _ =>
      let (word, rest) := plainWord cs
      match word with
      | "\x7b" =>
        let (body, rest) ← jobs n rest
        let (_, rest) ← expect "\x7d" (skipLines (rest.length + 1) rest)
        let (rs, rest) ← redirects n rest
        return (.group false body rs, rest)
      | "if" =>
        let ((bs, other), rest) ← branches n rest
        let (rs, rest) ← redirects n rest
        return (.choice bs other rs, rest)
      | "while" | "until" =>
        let (test, rest) ← jobs n rest
        let (body, rest) ← loopBody n rest
        let (rs, rest) ← redirects n rest
        return (.loop (word == "while") test body rs, rest)
      | "for" =>
        let (name, rest) := plainWord (skipBlanks rest)
        let rest := skipLines (rest.length + 1) rest
        if isNext "in" rest then
          let (words, rest) ← wordList n (plainWord rest).2
          let rest := match rest with
            | ';' :: rest => rest
            | rest => rest
          let (body, rest) ← loopBody n rest
          let (rs, rest) ← redirects n rest
          return (.each name (some words) body rs, rest)
        else
          let rest := match rest with
            | ';' :: rest => rest
            | rest => rest
          let (body, rest) ← loopBody n rest
          let (rs, rest) ← redirects n rest
          return (.each name none body rs, rest)
      | "case" =>
        let (subject, rest) ← pieces endsWord false n (skipBlanks rest)
        let (_, rest) ← expect "in" (skipLines (rest.length + 1) rest)
        let (as, rest) ← arms n rest
        let (rs, rest) ← redirects n rest
        return (.select subject as rs, rest)
      | _ =>
        if closers.contains word then unexpected cs
        else
          match word.toList.all inName && !word.isEmpty, skipBlanks rest with
          | true, '(' :: tail =>
            match skipBlanks tail with
            | ')' :: tail =>
              let (body, rest) ← command n (skipLines (tail.length + 1) tail)
              return (.define word body, rest)
            | tail => unexpected tail (some ")")
          | _, _ =>
            match ← simple [] [] [] n cs with
            | (.simple [] [] [] _, rest) => unexpected rest
            | done => return done

/-- Commands joined by bars. -/
def pipeline : Nat → Input → Except String (Pipeline × Input)
  | 0, _ => .error "too long"
  | n + 1, cs => do
    let cs := skipBlanks cs
    let negated := isNext "!" cs
    let (first, rest) ← command n (if negated then (plainWord cs).2 else cs)
    let (others, rest) ← piped n rest
    return (.mk negated (first :: others), rest)

/-- The commands after bars. -/
def piped : Nat → Input → Except String (List Command × Input)
  | 0, _ => .error "too long"
  | n + 1, cs =>
    match skipBlanks cs with
    | '|' :: '|' :: _ => .ok ([], cs)
    | '|' :: rest => do
      let (next, rest) ← command n (skipLines (rest.length + 1) rest)
      let (others, rest) ← piped n rest
      return (next :: others, rest)
    | _ => .ok ([], cs)

/-- The pipelines after `&&` and `||`. -/
def chained : Nat → Input → Except String ((List (Bool × Pipeline)) × Input)
  | 0, _ => .error "too long"
  | n + 1, cs =>
    let go (and : Bool) (rest : Input) : Except String ((List (Bool × Pipeline)) × Input) := do
      let (next, rest) ← pipeline n (skipLines (rest.length + 1) rest)
      let (others, rest) ← chained n rest
      return ((and, next) :: others, rest)
    match skipBlanks cs with
    | '&' :: '&' :: rest => go true rest
    | '|' :: '|' :: rest => go false rest
    | _ => .ok ([], cs)

/-- Jobs up to a word or mark that closes them, or the end. -/
def jobs : Nat → Input → Except String (List Job × Input)
  | 0, _ => .error "too long"
  | n + 1, cs => do
    let cs := skipLines (cs.length + 1) cs
    match cs with
    | [] => return ([], [])
    | ')' :: _ => return ([], cs)
    | ';' :: ';' :: _ => return ([], cs)
    | c :: _ =>
      if closers.contains (plainWord cs).1 then return ([], cs)
      if c == ';' || c == '&' || c == '|' then unexpected cs
      let (first, rest) ← pipeline n cs
      let (others, rest) ← chained n rest
      match skipBlanks rest with
      | ';' :: ';' :: _ => return ([.mk false first others], rest)
      | '&' :: rest =>
        let (more, rest) ← jobs n rest
        return (.mk true first others :: more, rest)
      | ';' :: rest | '\n' :: rest =>
        let (more, rest) ← jobs n rest
        return (.mk false first others :: more, rest)
      | rest => return ([.mk false first others], rest)

end

/-- The jobs up to the end of a line. -/
def line : Nat → Input → Except String (List Job × Input)
  | 0, _ => .error "too long"
  | n + 1, cs => do
    let (first, rest) ← pipeline n cs
    let (others, rest) ← chained n rest
    let more (background : Bool) (rest : Input) : Except String (List Job × Input) := do
      match skipBlanks rest with
      | [] => return ([.mk background first others], [])
      | '\n' :: rest => return ([.mk background first others], rest)
      | rest =>
        let (more, rest) ← line n rest
        return (.mk background first others :: more, rest)
    match skipBlanks rest with
    | ';' :: ';' :: _ => unexpected (skipBlanks rest)
    | '&' :: rest => more true rest
    | ';' :: rest => more false rest
    | [] => return ([.mk false first others], [])
    | '\n' :: rest => return ([.mk false first others], rest)
    | rest => unexpected rest

/-- Read the next line of a script that holds a command. Nothing is left of
it if there is none. -/
def next (cs : Input) : Except String (List Job × Input) :=
  match skipLines (cs.length + 1) cs with
  | [] => .ok ([], [])
  | cs => line (8 * cs.length + 64) cs

end Script

end Turnstile
