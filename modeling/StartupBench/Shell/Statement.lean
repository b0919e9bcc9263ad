import StartupBench.Shell.Token

/-!
# Statements of a shell script

A statement is a command, or is made of statements that run one after the other, depending on one
another, again and again, or side by side.  A script is read one line of statements at a time, so
that what stands in front of a mistake is run.
-/

namespace StartupBench.Shell

/-- A redirection of a stream. -/
structure Redirection where
  stream : Nat
  direction : Direction
  target : Word
  deriving Repr

/-- A statement. -/
inductive Statement where
  | nothing
  | command (line : Nat) (words : List Word) (redirections : List Redirection)
  | sequence (first second : Statement)
  /-- The second runs if the first succeeds. -/
  | both (first second : Statement)
  /-- The second runs if the first fails. -/
  | either (first second : Statement)
  | negation (s : Statement)
  | choice (condition yes no : Statement)
  /-- The body runs as long as the condition succeeds, or fails. -/
  | loop (wanted : Bool) (condition body : Statement)
  /-- The body runs for each word; without words for each argument. -/
  | each (name : String) (words : Option (List Word)) (body : Statement)
  /-- The first branch runs that has a pattern which fits the word. -/
  | cases (word : Word) (branches : Statement)
  | branch (patterns : List Word) (body next : Statement)
  | function (name : String) (body : Statement)
  | redirected (line : Nat) (body : Statement) (redirections : List Redirection)
  /-- What the body does to variables is forgotten. -/
  | apart (body : Statement)
  /-- The second reads what the first prints. -/
  | pipe (first second : Statement)
  | background (s : Statement)
  deriving Repr

namespace Statement

/-! ## Words with a meaning -/

/-- Words that have a meaning at the front of a command. -/
def keywords : List String :=
  ["!", "case", "do", "done", "elif", "else", "esac", "fi", "for", "if", "in", "then", "until",
   "while", "\x7b", "\x7d"]

/-- Words that end a list of statements. -/
def closers : List String := ["do", "done", "elif", "else", "esac", "fi", "then", "\x7d"]

/-- Commands whose mistakes end a script; no function has such a name. -/
def special : List String :=
  [":", ".", "break", "continue", "eval", "exec", "exit", "export", "readonly", "return", "set",
   "shift", "times", "trap", "unset"]

/-- Whether a word sets a variable. -/
def assigns (text : String) : Bool :=
  let (name, rest) := text.toList.span (· != '=')
  !rest.isEmpty && isName (String.ofList name)

/-- A word of one piece that is not quoted. -/
def bare? : List Located → Option String
  | ⟨_, .word [.text t false]⟩ :: _ => some t
  | _ => none

/-- The sign at the front. -/
def sign? : List Located → Option String
  | ⟨_, .sign text⟩ :: _ => some text
  | _ => none

/-- Whether a list of statements is at its end. -/
def atEnd (ts : List Located) : Bool :=
  (bare? ts).any closers.contains || (sign? ts).any [")", ";;"].contains

/-- The rest behind ends of lines. -/
def skipLines (ts : List Located) : List Located :=
  ts.dropWhile fun t => t.token = .lineEnd

/-! ## Mistakes -/

/-- A token as it stands in messages. -/
def tokenText (t : Token) : String :=
  let quoted (text : String) : String := "\"" ++ text ++ "\""
  match t with
  | .finish => "end of file"
  | .lineEnd => "newline"
  | .redirection .. => "redirection"
  | .sign text => quoted text
  | .word [.text t false] => if keywords.contains t then quoted t else "word"
  | .word _ => "word"
  | .fault message => message

/-- The mistake of a token that does not belong where it stands.  `plainly` says whether words have
no meaning there. -/
def unexpected {α : Type} (ts : List Located) (expected : String := "") (plainly : Bool := false) :
    Except Fault α :=
  match ts with
  | ⟨line, .fault message⟩ :: _ => .error ⟨line, message⟩
  | ⟨line, t⟩ :: _ =>
    let more := if expected.isEmpty then "" else " (expecting " ++ expected ++ ")"
    let text := match t with
      | .word _ => if plainly then "word" else tokenText t
      | _ => tokenText t
    .error ⟨line, text ++ " unexpected" ++ more⟩
  | [] => .error ⟨0, "end of file unexpected"⟩

/-- The rest behind a word with a meaning. -/
def expect (word : String) (ts : List Located) : Except Fault (List Located) :=
  let ts := skipLines ts
  if bare? ts = some word then .ok ts.tail else unexpected ts ("\"" ++ word ++ "\"")

/-- The rest behind a sign. -/
def expectSign (sign : String) (ts : List Located) (plainly : Bool := false) :
    Except Fault (List Located) :=
  if sign? ts = some sign then .ok ts.tail
  else unexpected ts ("\"" ++ sign ++ "\"") plainly

/-! ## Commands -/

/-- Reads redirections. -/
def readRedirections : (fuel : Nat) → List Located → List Redirection →
    Except Fault (List Redirection × List Located)
  | 0, ts, done => .ok (done.reverse, ts)
  | fuel + 1, ts, done =>
    match ts with
    | ⟨_, .redirection stream (.here content)⟩ :: rest =>
      readRedirections fuel rest (⟨stream, .here content, []⟩ :: done)
    | ⟨_, .redirection stream direction⟩ :: ⟨_, .word target⟩ :: rest =>
      readRedirections fuel rest (⟨stream, direction, target⟩ :: done)
    | ⟨_, .redirection ..⟩ :: rest => unexpected rest
    | _ => .ok (done.reverse, ts)

/-- Reads the words and redirections of a command. -/
def readCommand (line : Nat) : (fuel : Nat) → List Located → List Word → List Redirection →
    Except Fault (Statement × List Located)
  | 0, ts, words, redirections => .ok (.command line words redirections, ts)
  | fuel + 1, ts, words, redirections => do
    match ts with
    | ⟨_, .word w⟩ :: rest => readCommand line fuel rest (words ++ [w]) redirections
    | ⟨_, .redirection ..⟩ :: _ =>
      let (more, rest) ← readRedirections ts.length ts []
      readCommand line fuel rest words (redirections ++ more)
    | _ =>
      if words.isEmpty && redirections.isEmpty then unexpected ts
      else .ok (.command line words redirections, ts)

/-- Reads words up to something else. -/
def readWords : List Located → List Word × List Located
  | ⟨_, .word w⟩ :: rest =>
    let (words, rest) := readWords rest
    (w :: words, rest)
  | ts => ([], ts)

/-- The word at the front, if there is one, and the rest behind whatever stands there. -/
def takeWord (ts : List Located) : Word × List Located :=
  match ts with
  | ⟨_, .word w⟩ :: rest => (w, rest)
  | ⟨_, .finish⟩ :: _ => ([], ts)
  | ⟨_, .fault _⟩ :: _ => ([], ts)
  | _ :: rest => ([], rest)
  | [] => ([], [])

/-- Reads the patterns of a branch, and the sign behind them. -/
def readPatterns : (fuel : Nat) → List Located → List Word →
    Except Fault (List Word × List Located)
  | 0, ts, _ => unexpected ts
  | fuel + 1, ts, done =>
    let (pattern, rest) := takeWord ts
    if sign? rest = some "|" then readPatterns fuel rest.tail (done ++ [pattern])
    else (expectSign ")" rest true).map fun rest => (done ++ [pattern], rest)

/-- The kinds of lists of statements. -/
inductive Kind where
  /-- A line. -/
  | line
  | body
  /-- A body that may be empty. -/
  | branch
  deriving DecidableEq, Repr

mutual

/-- Reads a list of statements.  `before` are those that were read already. -/
def readList : (fuel : Nat) → Kind → (before : Option Statement) → List Located →
    Except Fault (Statement × List Located)
  | 0, _, _, ts => unexpected ts
  | fuel + 1, kind, before, ts => do
    let ts := if kind = .line then ts else skipLines ts
    let all := before.getD .nothing
    match ts with
    | ⟨_, .lineEnd⟩ :: rest => pure (all, rest)
    | ⟨_, .finish⟩ :: _ => pure (all, ts)
    | _ =>
      if (kind = .branch || (kind = .body && before.isSome)) && atEnd ts then pure (all, ts)
      else
        let (next, ts) ← readJoined fuel ts
        let join (next : Statement) : Statement := (before.map (.sequence · next)).getD next
        match ts with
        | ⟨_, .sign "&"⟩ :: rest => readList fuel kind (some (join (.background next))) rest
        | ⟨_, .sign ";"⟩ :: rest => readList fuel kind (some (join next)) rest
        | ⟨_, .lineEnd⟩ :: _ => readList fuel kind (some (join next)) ts
        | ⟨_, .finish⟩ :: _ => pure (join next, ts)
        | _ => if kind = .line then unexpected ts else pure (join next, ts)

/-- Reads statements that depend on one another. -/
def readJoined : (fuel : Nat) → List Located → Except Fault (Statement × List Located)
  | 0, ts => unexpected ts
  | fuel + 1, ts => do
    let (first, ts) ← readPipe fuel ts
    readMore fuel first ts

/-- Reads the statements that depend on one. -/
def readMore : (fuel : Nat) → Statement → List Located →
    Except Fault (Statement × List Located)
  | 0, _, ts => unexpected ts
  | fuel + 1, first, ts => do
    match sign? ts with
    | some "&&" =>
      let (second, ts) ← readPipe fuel (skipLines ts.tail)
      readMore fuel (.both first second) ts
    | some "||" =>
      let (second, ts) ← readPipe fuel (skipLines ts.tail)
      readMore fuel (.either first second) ts
    | _ => pure (first, ts)

/-- Reads statements of which each reads what the one before prints; they may be negated
together. -/
def readPipe : (fuel : Nat) → List Located → Except Fault (Statement × List Located)
  | 0, ts => unexpected ts
  | fuel + 1, ts => do
    if bare? ts = some "!" then
      let (s, ts) ← readChain fuel ts.tail
      pure (.negation s, ts)
    else readChain fuel ts

/-- Reads statements of which each reads what the one before prints, and none is negated. -/
def readChain : (fuel : Nat) → List Located → Except Fault (Statement × List Located)
  | 0, ts => unexpected ts
  | fuel + 1, ts => do
    let (first, ts) ← readOne fuel ts
    if sign? ts = some "|" then
      let (second, ts) ← readChain fuel (skipLines ts.tail)
      pure (.pipe first second, ts)
    else pure (first, ts)

/-- Reads one statement. -/
def readOne : (fuel : Nat) → List Located → Except Fault (Statement × List Located)
  | 0, ts => unexpected ts
  | _, [] => unexpected []
  | fuel + 1, t :: rest => do
    let redirected (r : Statement × List Located) : Except Fault (Statement × List Located) := do
      let (redirections, ts) ← readRedirections r.2.length r.2 []
      pure (if redirections.isEmpty then r.1 else .redirected t.line r.1 redirections, ts)
    match bare? (t :: rest), sign? (t :: rest) with
    | some "\x7b", _ => do
      let (s, ts) ← readList fuel .body none rest
      redirected (s, ← expect "\x7d" ts)
    | _, some "(" => do
      let (s, ts) ← readList fuel .body none rest
      redirected (.apart s, ← expectSign ")" ts)
    | some "if", _ => do redirected (← readChoice fuel rest)
    | some "while", _ => do redirected (← readLoop fuel true rest)
    | some "until", _ => do redirected (← readLoop fuel false rest)
    | some "for", _ => do redirected (← readEach fuel rest)
    | some "case", _ =>
      match rest with
      | ⟨_, .word w⟩ :: ts => do
        let (branches, ts) ← readBranches fuel (← expect "in" ts)
        redirected (.cases w branches, ts)
      | _ => unexpected rest "word"
    | some name, _ =>
      if closers.contains name || name = "in" || name = "!" then unexpected (t :: rest)
      else if sign? rest = some "(" && !assigns name then do
        let ts ← expectSign ")" rest.tail true
        if !isName name || special.contains name then .error ⟨t.line, "Bad function name"⟩
        else
          let (body, ts) ← readOne fuel (skipLines ts)
          pure (.function name body, ts)
      else readCommand t.line (rest.length + 2) (t :: rest) [] []
    | none, _ => readCommand t.line (rest.length + 2) (t :: rest) [] []

/-- Reads a choice behind the word that begins it. -/
def readChoice : (fuel : Nat) → List Located → Except Fault (Statement × List Located)
  | 0, ts => unexpected ts
  | fuel + 1, ts => do
    let (condition, ts) ← readList fuel .body none ts
    let (yes, ts) ← readList fuel .body none (← expect "then" ts)
    let ts := skipLines ts
    match bare? ts with
    | some "elif" =>
      let (no, ts) ← readChoice fuel ts.tail
      pure (.choice condition yes no, ts)
    | some "else" =>
      let (no, ts) ← readList fuel .body none ts.tail
      pure (.choice condition yes no, ← expect "fi" ts)
    | _ => pure (.choice condition yes .nothing, ← expect "fi" ts)

/-- Reads a loop behind the word that begins it. -/
def readLoop : (fuel : Nat) → Bool → List Located → Except Fault (Statement × List Located)
  | 0, _, ts => unexpected ts
  | fuel + 1, wanted, ts => do
    let (condition, ts) ← readList fuel .body none ts
    let (body, ts) ← readList fuel .body none (← expect "do" ts)
    pure (.loop wanted condition body, ← expect "done" ts)

/-- Reads a loop over words behind the word that begins it. -/
def readEach : (fuel : Nat) → List Located → Except Fault (Statement × List Located)
  | 0, ts => unexpected ts
  | fuel + 1, ts => do
    match bare? ts with
    | none => .error ⟨((ts.head?.map (·.line)).getD 0), "Bad for loop variable"⟩
    | some name =>
      if !isName name then .error ⟨((ts.head?.map (·.line)).getD 0), "Bad for loop variable"⟩
      else
        let ts := skipLines ts.tail
        let (words, ts) ←
          if bare? ts = some "in" then
            let (words, ts) := readWords ts.tail
            match ts with
            | ⟨_, .lineEnd⟩ :: rest => pure (some words, rest)
            | ⟨_, .sign ";"⟩ :: rest => pure (some words, rest)
            | _ => unexpected ts
          else pure (none, if sign? ts = some ";" then ts.tail else ts)
        let (body, ts) ← readList fuel .body none (← expect "do" ts)
        pure (.each name words body, ← expect "done" ts)

/-- Reads branches up to the word that ends them. -/
def readBranches : (fuel : Nat) → List Located → Except Fault (Statement × List Located)
  | 0, ts => unexpected ts
  | fuel + 1, ts => do
    let ts := skipLines ts
    if bare? ts = some "esac" then pure (.nothing, ts.tail)
    else
      let ts := if sign? ts = some "(" then ts.tail else ts
      let (patterns, ts) ← readPatterns (ts.length + 1) ts []
      let (body, ts) ← readList fuel .branch none ts
      let ts := skipLines ts
      if bare? ts = some "esac" then pure (.branch patterns body .nothing, ts.tail)
      else
        let (next, ts) ← readBranches fuel (← expectSign ";;" ts)
        pure (.branch patterns body next, ts)

end

/-- Reads the next line of statements. -/
def readLine (ts : List Located) : Except Fault (Statement × List Located) :=
  readList (8 * ts.length + 8) .line none ts

end Statement

end StartupBench.Shell
