import StartupBench.Shell.Word

/-!
# Tokens of a shell script

The text of a script is read into words, signs, redirections and ends of lines.  The text that a
redirection takes from the lines below it is read at the end of its line.  A script that cannot be
read to its end has the tokens up to there and then a fault.
-/

namespace StartupBench.Shell

/-- Where a redirection leads. -/
inductive Direction where
  | input
  | output
  | append
  /-- To where another stream goes. -/
  | duplicate
  /-- From the lines below, up to one of a certain text. -/
  | here (content : Word)
  deriving DecidableEq, Repr

/-- A token. -/
inductive Token where
  | word (w : Word)
  | sign (text : String)
  | lineEnd
  /-- A redirection of a stream by its number. -/
  | redirection (stream : Nat) (d : Direction)
  | fault (message : String)
  | finish
  deriving DecidableEq, Repr

/-- A token with the number of its line. -/
structure Located where
  line : Nat
  token : Token
  deriving DecidableEq, Repr

namespace Reader

/-! ## Lines below a redirection -/

/-- A text that is still to be read from the lines below. -/
structure Awaited where
  /-- The line that ends the text. -/
  stop : String
  /-- Whether the text is taken as it stands. -/
  quoted : Bool
  /-- Whether tabs at the front of its lines do not count. -/
  indented : Bool

/-- The characters up to the end of the line, and those behind it. -/
def takeLine (cs : List Char) : List Char × List Char :=
  let (line, rest) := cs.span (· != '\n')
  (line, rest.drop 1)

/-- The lines of an awaited text, and the characters behind the line that ends it. -/
def takeAwaited (a : Awaited) : (fuel : Nat) → List Char → (seen : List (List Char)) →
    List (List Char) × List Char
  | 0, cs, seen => (seen.reverse, cs)
  | fuel + 1, cs, seen =>
    if cs.isEmpty then (seen.reverse, [])
    else
      let (line, rest) := takeLine cs
      let line := if a.indented then line.dropWhile (· = '\t') else line
      if String.ofList line = a.stop then (seen.reverse, rest)
      else takeAwaited a fuel rest ((line ++ ['\n']) :: seen)

/-- Reads awaited texts. -/
def readAwaited : List Awaited → Cursor → List Word × Cursor
  | [], c => ([], c)
  | a :: more, c =>
    let (lines, rest) := takeAwaited a (c.rest.length + 1) c.rest []
    let text := String.ofList lines.flatten
    let word := if a.quoted then [Piece.text text true] else Word.readAs .lines text
    let (words, c) := readAwaited more ⟨rest, c.lastLine - rest.count '\n'⟩
    (word :: words, c)

/-! ## Tokens -/

/-- The reader. -/
structure State where
  cursor : Cursor
  /-- The tokens that were read, the last one first. -/
  tokens : List Located := []
  awaited : List Awaited := []
  /-- The texts that were awaited, the last one first. -/
  found : List Word := []

/-- Add a token and go on behind it. -/
def State.push (s : State) (t : Token) (c : Cursor) : State :=
  { s with cursor := c, tokens := ⟨c.line, t⟩ :: s.tokens }

/-- The text of a word without its quotes. -/
def plainText (w : Word) : String :=
  String.join (w.map fun piece => match piece with
    | .text t _ => t
    | _ => "")

/-- Whether a part of a word stands between quotes. -/
def hasQuotes (w : Word) : Bool :=
  w.any fun piece => match piece with
    | .text _ quoted => quoted
    | _ => false

/-- The message about what stands where a word is needed. -/
def noWord (rest : List Char) : String :=
  match rest with
  | [] => "end of file unexpected"
  | '\n' :: _ => "newline unexpected"
  | c :: _ =>
    if c = '<' || c = '>' then "redirection unexpected"
    else "\"" ++ String.singleton c ++ "\" unexpected"

/-- A redirection, whose sign was read. -/
def redirect (s : State) (stream : Nat) (sign : String) (c : Cursor) : Except Fault State :=
  match sign with
  | "<<" | "<<-" => do
    let blanks := c.rest.takeWhile fun d => d = ' ' || d = '\t'
    let start : Cursor := ⟨c.rest.drop blanks.length, c.line⟩
    if start.rest.head?.all endsWord then throw ⟨c.line, noWord start.rest⟩
    let (w, c) ← readPieces (start.rest.length + 1) .plain start []
    let awaited : Awaited := ⟨plainText w, hasQuotes w, sign = "<<-"⟩
    pure { s.push (.redirection stream (.here [])) c with awaited := s.awaited ++ [awaited] }
  | ">>" => pure (s.push (.redirection stream .append) c)
  | ">&" | "<&" => pure (s.push (.redirection stream .duplicate) c)
  | "<" | "<>" => pure (s.push (.redirection stream .input) c)
  | _ => pure (s.push (.redirection stream .output) c)

/-- The signs that begin with a character, the longest first. -/
def signs : Char → List String
  | '&' => ["&&", "&"]
  | '|' => ["||", "|"]
  | ';' => [";;", ";"]
  | '(' => ["("]
  | ')' => [")"]
  | '>' => [">>", ">&", ">|", ">"]
  | '<' => ["<<-", "<<", "<&", "<>", "<"]
  | _ => []

/-- The sign at the front of a text, and the rest. -/
def sign? (cs : List Char) : Option (String × List Char) :=
  (cs.head?.bind fun c => (signs c).find? fun sign => sign.toList.isPrefixOf cs).map fun sign =>
    (sign, cs.drop sign.length)

/-- Whether a sign begins a redirection. -/
def redirects (sign : String) : Bool := sign.startsWith ">" || sign.startsWith "<"

/-- A sign with the number of the stream that stands in front of it. -/
def numbered? (cs : List Char) : Option (Nat × String × List Char) :=
  match cs with
  | c :: rest =>
    if c.isDigit then
      (sign? rest).bind fun (sign, rest) =>
        if redirects sign then some (c.toNat - '0'.toNat, sign, rest) else none
    else none
  | [] => none

/-- Reads one token. -/
def step (s : State) : Except Fault State :=
  let c := s.cursor
  match c.rest with
  | [] => pure s
  | '\n' :: rest => do
    let s := s.push .lineEnd ⟨rest, c.line + 1⟩
    let (words, c) := readAwaited s.awaited s.cursor
    pure { s with cursor := c, awaited := [], found := words.reverse ++ s.found }
  | '\\' :: '\n' :: rest => pure { s with cursor := ⟨rest, c.line + 1⟩ }
  | d :: rest =>
    if d = ' ' || d = '\t' then pure { s with cursor := ⟨rest, c.line⟩ }
    else if d = '#' then
      pure { s with cursor := ⟨rest.dropWhile (· != '\n'), c.line⟩ }
    else
      match numbered? c.rest with
      | some (stream, sign, rest) => redirect s stream sign ⟨rest, c.line⟩
      | none =>
        match sign? c.rest with
        | some (sign, rest) =>
          if redirects sign then
            redirect s (if sign.startsWith "<" then 0 else 1) sign ⟨rest, c.line⟩
          else pure (s.push (.sign sign) ⟨rest, c.line⟩)
        | none => do
          let (w, c) ← readPieces (c.rest.length + 1) .plain c []
          pure (s.push (.word w) c)

/-- Reads tokens to the end of the text, or to a fault. -/
def steps : (fuel : Nat) → State → State
  | 0, s => s
  | fuel + 1, s =>
    if s.cursor.rest.isEmpty then s
    else
      match step s with
      | .ok s => steps fuel s
      | .error f =>
        { s with
          cursor := ⟨[], f.line⟩
          tokens := ⟨f.line, .fault f.message⟩ :: s.tokens }

/-- Put the texts that were awaited into their redirections. -/
def fill : List Located → List Word → List Located
  | ⟨line, .redirection stream (.here _)⟩ :: rest, content :: more =>
    ⟨line, .redirection stream (.here content)⟩ :: fill rest more
  | t :: rest, words => t :: fill rest words
  | [], _ => []

end Reader

/-- The tokens of a script. -/
def tokens (text : String) : List Located :=
  let s := Reader.steps (text.length + 1) { cursor := ⟨text.toList, 1⟩ }
  Reader.fill (⟨s.cursor.line, .finish⟩ :: s.tokens).reverse s.found.reverse

end StartupBench.Shell
