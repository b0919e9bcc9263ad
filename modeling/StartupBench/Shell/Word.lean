import StartupBench.RawText

/-!
# Words of a shell script

A word consists of pieces: text that stands for itself, and parameters, scripts and sums that are
replaced by their values when the word is used.  Quotes decide what is taken as it stands.  A script
or a word inside a piece is kept as text and read when it is needed.
-/

namespace StartupBench.Shell

/-- What becomes of the value of a parameter.  `ifEmpty` says whether an empty value counts as
none. -/
inductive Change where
  | asIs
  | length
  /-- A word stands in for a value that is not there. -/
  | orElse (ifEmpty : Bool) (word : String)
  /-- A word becomes the value if none is there. -/
  | orAssign (ifEmpty : Bool) (word : String)
  /-- A word stands in for a value that is there. -/
  | ifThere (ifEmpty : Bool) (word : String)
  /-- The script ends with a message if no value is there. -/
  | orEnd (ifEmpty : Bool) (word : String)
  | dropFront (longest : Bool) (pattern : String)
  | dropBack (longest : Bool) (pattern : String)
  /-- Nobody knows; the script ends when it comes to it. -/
  | unknown
  deriving DecidableEq, Repr

/-- A piece of a word. -/
inductive Piece where
  | text (text : String) (quoted : Bool)
  | parameter (name : String) (change : Change) (quoted : Bool)
  /-- What a script prints. -/
  | output (script : String) (quoted : Bool)
  | sum (expression : String) (quoted : Bool)
  deriving DecidableEq, Repr

/-- A word. -/
abbrev Word := List Piece

/-! ## The reader -/

/-- Why a script cannot be read, and on which line that is found. -/
structure Fault where
  line : Nat
  message : String
  deriving DecidableEq, Repr

/-- What is still to be read, and on which line. -/
structure Cursor where
  rest : List Char
  line : Nat := 1

namespace Cursor

/-- The cursor behind a text that was read. -/
def after (c : Cursor) (text rest : List Char) : Cursor := ⟨rest, c.line + text.count '\n'⟩

/-- The last line of the text. -/
def lastLine (c : Cursor) : Nat := c.line + c.rest.count '\n'

end Cursor

/-- The text up to the sign that closes an open one, and the rest behind that sign.  Between quotes,
and behind a backslash, signs do not count. -/
def enclosed? (opening closing : Char) (quotes : List Char) :
    List Char → (quote : Option Char) → (escaped : Bool) → (depth : Nat) → (seen : List Char) →
      Option (List Char × List Char)
  | [], _, _, _, _ => none
  | c :: rest, quote, true, depth, seen =>
    enclosed? opening closing quotes rest quote false depth (c :: seen)
  | c :: rest, some quote, false, depth, seen =>
    enclosed? opening closing quotes rest (if c = quote then none else some quote)
      (c = '\\' && quote ≠ '\'') depth (c :: seen)
  | c :: rest, none, false, depth, seen =>
    if c = closing && depth = 0 then some (seen.reverse, rest)
    else
      let depth := if c = opening then depth + 1 else if c = closing then depth - 1 else depth
      enclosed? opening closing quotes rest (if quotes.contains c then some c else none)
        (c = '\\') depth (c :: seen)

/-- The text up to the next backquote, and the rest behind it.  Behind a backslash a sign that has a
meaning inside stands for itself. -/
def backquoted? : List Char → (escaped : Bool) → (seen : List Char) →
    Option (List Char × List Char)
  | [], _, _ => none
  | c :: rest, true, seen =>
    backquoted? rest false (if "$`\\".toList.contains c then c :: seen else c :: '\\' :: seen)
  | c :: rest, false, seen =>
    if c = '`' then some (seen.reverse, rest)
    else if c = '\\' then backquoted? rest true seen
    else backquoted? rest false (c :: seen)

/-- Whether a name may begin with a character. -/
def beginsName (c : Char) : Bool := c.isAlpha || c = '_'

/-- Whether a name may go on with a character. -/
def continuesName (c : Char) : Bool := c.isAlphanum || c = '_'

/-- Whether a text is a name. -/
def isName (text : String) : Bool :=
  match text.toList with
  | c :: rest => beginsName c && rest.all continuesName
  | [] => false

/-- The parameters with names of one sign. -/
def signNames : List Char := ['@', '*', '#', '?', '$', '!', '-']

/-- The name of a parameter at the front of a text, and the rest. -/
def takeName? (text : List Char) : Option (String × List Char) :=
  match text with
  | [] => none
  | c :: rest =>
    if beginsName c then
      let (name, rest) := text.span continuesName
      some (String.ofList name, rest)
    else if c.isDigit then
      let (name, rest) := text.span Char.isDigit
      some (String.ofList name, rest)
    else if signNames.contains c then some (String.singleton c, rest)
    else none

/-- The change that is written behind the name of a parameter. -/
def readChange? (text : List Char) : Option Change :=
  let withWord (ifEmpty : Bool) (c : Char) (rest : List Char) : Option Change :=
    let word := String.ofList rest
    match c with
    | '-' => some (.orElse ifEmpty word)
    | '=' => some (.orAssign ifEmpty word)
    | '+' => some (.ifThere ifEmpty word)
    | '?' => some (.orEnd ifEmpty word)
    | _ => none
  match text with
  | [] => some .asIs
  | '#' :: '#' :: rest => some (.dropFront true (String.ofList rest))
  | '#' :: rest => some (.dropFront false (String.ofList rest))
  | '%' :: '%' :: rest => some (.dropBack true (String.ofList rest))
  | '%' :: rest => some (.dropBack false (String.ofList rest))
  | ':' :: c :: rest => withWord true c rest
  | c :: rest => withWord false c rest

/-- The parameter that stands between braces. -/
def readBraced (text : List Char) (quoted : Bool) : Piece :=
  let changed (name : String) (rest : List Char) : Piece :=
    .parameter name ((readChange? rest).getD .unknown) quoted
  match text with
  | '#' :: c :: rest =>
    match takeName? (c :: rest) with
    | some (name, []) => .parameter name .length quoted
    | _ => changed "#" (c :: rest)
  | _ =>
    match takeName? text with
    | some (name, rest) => changed name rest
    | none => .parameter "" .unknown quoted

/-- The text of a sum up to the two parentheses that close it, and the rest behind them. -/
def sum? : List Char → (depth : Nat) → (seen : List Char) → Option (List Char × List Char)
  | [], _, _ => none
  | ')' :: ')' :: rest, 0, seen => some (seen.reverse, rest)
  | c :: rest, depth, seen =>
    sum? rest (if c = '(' then depth + 1 else if c = ')' then depth - 1 else depth) (c :: seen)

/-- The last line of a text in which braces stay open.  The end of a line right behind the name does
not count. -/
def openBraceLine (c : Cursor) (text : List Char) : Nat :=
  match takeName? text with
  | some (_, '\n' :: _) => c.lastLine - 1
  | _ => c.lastLine

/-- The message about a quote without an end. -/
def openQuote : String := "Unterminated quoted string"

/-- Reads what follows a dollar sign; none if the sign stands for itself. -/
def readDollar (quoted : Bool) (c : Cursor) : Except Fault (Option Piece × Cursor) :=
  match c.rest with
  | '(' :: '(' :: rest =>
    match sum? rest 0 [] with
    | none => .error ⟨c.lastLine, "Missing '))'"⟩
    | some (text, rest) => .ok (some (.sum (String.ofList text) quoted), c.after text rest)
  | '(' :: rest =>
    match enclosed? '(' ')' ['\'', '"'] rest none false 0 [] with
    | none => .error ⟨c.lastLine, "end of file unexpected (expecting \")\")"⟩
    | some (script, rest) =>
      .ok (some (.output (String.ofList script) quoted), c.after script rest)
  | '\x7b' :: rest =>
    let quotes := if quoted then ['"'] else ['\'', '"']
    match enclosed? '\x7b' '\x7d' quotes rest none false 0 [] with
    | none =>
      .error ⟨openBraceLine c rest, if quoted then openQuote else "Missing '\x7d'"⟩
    | some (text, rest) => .ok (some (readBraced text quoted), c.after text rest)
  | _ :: _ =>
    match takeName? c.rest with
    | some (name, rest) =>
      if name.length ≤ 1 || !(name.toList.head?.any Char.isDigit) then
        .ok (some (.parameter name .asIs quoted), ⟨rest, c.line⟩)
      else
        .ok (some (.parameter (name.take 1).toString .asIs quoted), ⟨c.rest.tail, c.line⟩)
    | none => .ok (none, c)
  | [] => .ok (none, c)

/-- How pieces are read. -/
inductive Mode where
  /-- Up to a sign that ends a word. -/
  | plain
  /-- Up to the closing quote. -/
  | double
  /-- Up to the end of the text, as outside of quotes. -/
  | wholePlain
  /-- Up to the end of the text, as between double quotes; double quotes inside are dropped. -/
  | wholeDouble
  /-- Up to the end of the text, as between double quotes; double quotes inside stay. -/
  | lines
  deriving DecidableEq, Repr

/-- Whether pieces are read as between double quotes. -/
def Mode.isQuoted (m : Mode) : Bool := m = .double || m = .wholeDouble || m = .lines

/-- Whether a character ends a word. -/
def endsWord (c : Char) : Bool := " \t\n;&|<>()".toList.contains c

/-- A character added to pieces, the last piece first. -/
def addChar (c : Char) (quoted : Bool) : Word → Word
  | .text t q :: rest => if q = quoted then .text (t.push c) q :: rest
    else .text (String.singleton c) quoted :: .text t q :: rest
  | rest => .text (String.singleton c) quoted :: rest

/-- What a backslash makes of the character behind it. -/
def addEscaped (m : Mode) (c : Char) (done : Word) : Word :=
  let special := match m with
    | .double => "$`\"\\"
    | .wholeDouble => "$`\"\\\x7d"
    | _ => "$`\\"
  if !m.isQuoted || special.toList.contains c then addChar c true done
  else addChar c true (addChar '\\' true done)

/-- Reads pieces behind those in `done`, of which the last stands first. -/
def readPieces : (fuel : Nat) → Mode → Cursor → (done : Word) → Except Fault (Word × Cursor)
  | 0, _, c, done => .ok (done.reverse, c)
  | fuel + 1, m, c, done =>
    match c.rest with
    | [] => if m = .double then .error ⟨c.line, openQuote⟩ else .ok (done.reverse, c)
    | '\\' :: '\n' :: rest => readPieces fuel m ⟨rest, c.line + 1⟩ done
    | '\\' :: d :: rest => readPieces fuel m ⟨rest, c.line⟩ (addEscaped m d done)
    | '$' :: rest => do
      match ← readDollar m.isQuoted ⟨rest, c.line⟩ with
      | (some piece, c) => readPieces fuel m c (piece :: done)
      | (none, c) => readPieces fuel m c (addChar '$' true done)
    | '`' :: rest =>
      match backquoted? rest false [] with
      | none => .error ⟨c.lastLine, "EOF in backquote substitution"⟩
      | some (script, behind) =>
        readPieces fuel m (c.after script behind)
          (.output (String.ofList script) m.isQuoted :: done)
    | d :: rest =>
      if d = '"' && m = .double then .ok (done.reverse, ⟨rest, c.line⟩)
      else if d = '"' && m = .wholeDouble then readPieces fuel m ⟨rest, c.line⟩ done
      else if m = .plain && endsWord d then .ok (done.reverse, c)
      else if d = '"' && !m.isQuoted then do
        let (inside, c) ← readPieces fuel .double ⟨rest, c.line⟩ []
        readPieces fuel m c (inside.reverse ++ .text "" true :: done)
      else if d = '\'' && !m.isQuoted then
        match rest.span (· != '\'') with
        | (inside, _ :: behind) =>
          readPieces fuel m (c.after inside behind) (.text (String.ofList inside) true :: done)
        | (_, []) => .error ⟨c.lastLine, openQuote⟩
      else
        readPieces fuel m (c.after [d] rest) (addChar d m.isQuoted done)

/-- Reads a whole text as a word. -/
def Word.readAs (mode : Mode) (text : String) : Word :=
  match readPieces (text.length + 1) mode ⟨text.toList, 1⟩ [] with
  | .ok (w, _) => w
  | .error _ => [.text text true]

/-- Reads a word that a piece contains. -/
def Word.read (quoted : Bool) (text : String) : Word :=
  Word.readAs (if quoted then .wholeDouble else .wholePlain) text

end StartupBench.Shell
