import StartupBench.Shell.Session

/-!
# Tests of a shell script

A test is a list of words: questions about one text or two, joined by signs that mean and, or and
not.
-/

namespace StartupBench.Shell

namespace Test

/-- The whole number that a text writes. -/
def integer? (t : RawText) : Option Int := t.display.trimAscii.toString.toInt?

/-- The questions about one text. -/
def unaries : List String :=
  ["-n", "-z", "-e", "-f", "-d", "-s", "-x", "-r", "-w", "-L", "-h", "-p", "-S", "-b", "-c", "-t",
   "-u", "-g", "-k", "-O", "-G"]

/-- The questions about two texts. -/
def binaries : List String :=
  ["=", "==", "!=", "<", ">", "-eq", "-ne", "-lt", "-le", "-gt", "-ge", "-nt", "-ot", "-ef"]

/-- The answer to a question about one text. -/
def one (files : Files) (question : String) (t : RawText) : Bool :=
  match question with
  | "-n" => !t.bytes.isEmpty
  | "-z" => t.bytes.isEmpty
  | "-e" | "-r" | "-w" | "-O" | "-G" => (files.find ⟨t⟩).toOption.isSome
  | "-f" => files.isFile ⟨t⟩ && ⟨t⟩ ≠ nullDevice
  | "-c" => ⟨t⟩ = nullDevice
  | "-d" => files.isDirectory ⟨t⟩
  | "-s" => files.isDirectory ⟨t⟩ || (files.content? ⟨t⟩).any (!·.isEmpty)
  | "-x" => match files.find ⟨t⟩ with
    | .ok ⟨.file _ executable, _⟩ => executable
    | .ok _ => true
    | .error _ => false
  | _ => false

/-- The answer to a question about two texts. -/
def two (question : String) (a b : RawText) : Except String Bool := do
  let number (t : RawText) : Except String Int :=
    match integer? t with
    | some n => .ok n
    | none => .error ("Illegal number: " ++ t.display)
  match question with
  | "=" | "==" => .ok (a = b)
  | "!=" => .ok (a ≠ b)
  | "<" => .ok (decide (a.display < b.display))
  | ">" => .ok (decide (b.display < a.display))
  | "-eq" => return (← number a) = (← number b)
  | "-ne" => return (← number a) ≠ (← number b)
  | "-lt" => return (← number a) < (← number b)
  | "-le" => return (← number a) ≤ (← number b)
  | "-gt" => return (← number a) > (← number b)
  | "-ge" => return (← number a) ≥ (← number b)
  | _ => .ok false

/-! ## Parts of a test -/

/-- What the first word is. -/
inductive Part where
  | nothing
  | operand
  | unary
  | binary
  | and
  | or
  | not
  | opening
  | closing
  deriving DecidableEq, Repr

/-- Whether a question about one text is such a text itself: it is the last word, or a question
about two texts follows and then another word. -/
def isOperand : (behind : List RawText) → Bool
  | [] => true
  | [_] => false
  | question :: _ => binaries.contains question.display

/-- What the first word is. -/
def part : List RawText → Part
  | [] => .nothing
  | w :: behind =>
    let text := w.display
    if text = "!" then .not
    else if text = "-a" then .and
    else if text = "-o" then .or
    else if text = "(" then if behind.isEmpty then .operand else .opening
    else if text = ")" then .closing
    else if binaries.contains text then .binary
    else if unaries.contains text then if isOperand behind then .operand else .unary
    else .operand

/-- The complaint about a question without a text. -/
def argumentExpected (question : RawText) : String := question.display ++ ": argument expected"

/-- The words behind the first one. -/
def behind (words : List RawText) : List RawText := words.drop 1

/-- An answer, and the words from the last one on that belongs to the question. -/
abbrev Answer := Except String (Bool × List RawText)

mutual

/-- The answer to questions of which one has to be true. -/
def any (files : Files) : (fuel : Nat) → Part → List RawText → Answer
  | 0, _, ws => .ok (false, ws)
  | fuel + 1, first, ws => do
    let (a, ws) ← all files fuel first ws
    if part (behind ws) = .or then
      let next := behind (behind ws)
      let (b, ws) ← any files fuel (part next) next
      pure (a || b, ws)
    else pure (a, ws)

/-- The answer to questions that all have to be true. -/
def all (files : Files) : (fuel : Nat) → Part → List RawText → Answer
  | 0, _, ws => .ok (false, ws)
  | fuel + 1, first, ws => do
    let (a, ws) ← single files fuel first ws
    if part (behind ws) = .and then
      let next := behind (behind ws)
      let (b, ws) ← all files fuel (part next) next
      pure (a && b, ws)
    else pure (a, ws)

/-- The answer to one question. -/
def single (files : Files) : (fuel : Nat) → Part → List RawText → Answer
  | 0, _, ws => .ok (false, ws)
  | _, _, [] => .ok (false, [])
  | fuel + 1, first, w :: rest =>
    match first with
    | .nothing => .ok (false, w :: rest)
    | .not => do
      let (a, ws) ← if rest.isEmpty then pure (false, w :: rest)
        else single files fuel (part rest) rest
      pure (!a, ws)
    | .opening => do
      if part rest = .closing then pure (false, rest)
      else
        let (a, ws) ← any files fuel (part rest) rest
        let next := behind ws
        if part next = .closing then pure (a, next) else .error "closing paren expected"
    | .unary =>
      match rest with
      | t :: _ => .ok (one files w.display t, rest)
      | [] => .error (argumentExpected w)
    | _ =>
      match rest with
      | question :: more =>
        if part rest = .binary then
          match more with
          | b :: _ => (two question.display w b).map fun a => (a, more)
          | [] => .error (argumentExpected question)
        else .ok (!w.bytes.isEmpty, w :: rest)
      | [] => .ok (!w.bytes.isEmpty, [w])

end

/-- The answer to the questions of a whole test. -/
def ask (files : Files) (first : Part) (words : List RawText) : Except String Bool := do
  let (a, rest) ← any files (3 * words.length + 3) first words
  match rest with
  | last :: _ :: _ => .error (last.display ++ ": unexpected operator")
  | _ => pure a

/-- The answer to a whole test, which may be negated.  Three words with a question about two texts
in their middle are that question.  Otherwise three or four words may stand between parentheses, or
behind a not; several of those are one. -/
def answer (files : Files) (negated : Bool) : List RawText → Except String Bool
  | [] => .ok false
  | w :: rest =>
    let words := w :: rest
    let few := rest.length = 2 || rest.length = 3
    let whole (first : Part) (words : List RawText) : Except String Bool :=
      (ask files first words).map fun a => a != negated
    if rest.length = 2 && rest.head?.any (fun q => binaries.contains q.display) then
      whole .operand words
    else if few && w = "(" && words.getLast? = some (")" : RawText) then
      whole (part rest.dropLast) rest.dropLast
    else if few && w = "!" then answer files true rest
    else whole (part words) words

end Test

/-- The status of a test; what is wrong with it is said. -/
def testStatus (name : String) (words : List RawText) : Run Nat := do
  match Test.answer (← get).files false words with
  | .ok true => pure 0
  | .ok false => pure 1
  | .error problem =>
    complain (name ++ ": " ++ problem)
    pure 2

end StartupBench.Shell
