import StartupBench.CommandLine.Argument

/-!
# Reading a command line

Words are read from left to right.  A word that begins with a dash is an argument, any other the
value of the argument before it that waits for one, or a positional argument; after a word of two
dashes all words are positional.  Letters may be written together, and a value may be attached to
its argument: `--name=value`, `-nvalue` or `-n=value`.

A value that is a word of its own is looked at only when the next argument is accepted, or at the
end.  An unknown argument is therefore reported before a bad value in front of it.

After the words come the variables of the environment, for arguments that were not given, and then
the rules between arguments.
-/

namespace StartupBench.CommandLine

/-- The variables of the environment. -/
abbrev Environment := List (String × RawText)

/-- The value of a variable. -/
def Environment.get? (env : Environment) (name : String) : Option RawText :=
  (env.find? fun v => v.1 == name).map (·.2)

/-- The form of a word. -/
inductive Word where
  /-- Two dashes. -/
  | separator
  /-- Two dashes and more. -/
  | long (body : List UInt8)
  /-- One dash and more. -/
  | letters (body : List UInt8)
  /-- Anything else, a single dash too. -/
  | plain
  deriving DecidableEq, Repr

/-- The form of a word. -/
def Word.ofRaw (word : RawText) : Word :=
  let dash := '-'.toNat.toUInt8
  match word.bytes with
  | a :: b :: body =>
    if a != dash then .plain
    else if b != dash then .letters (b :: body)
    else if body.isEmpty then .separator
    else .long body
  | _ => .plain

/-- What has been read. -/
structure Reading where
  /-- The arguments with their values. -/
  given : List (Argument × Value) := []
  /-- An argument whose words have not been looked at yet. -/
  pending : Option (Argument × List RawText) := none
  /-- How many positional arguments there were. -/
  positional : Nat := 0

namespace Reading

/-- The value of an argument. -/
def value? (r : Reading) (a : Argument) : Option Value :=
  (r.given.find? fun v => v.1 = a).map (·.2)

/-- Whether an argument was given. -/
def has (r : Reading) (a : Argument) : Bool := (r.value? a).isSome

/-- Add the value of an argument. -/
def add (r : Reading) (a : Argument) (raw : RawText) : Except UsageError Reading := do
  let v ← a.kind.read raw
  pure { r with given := r.given ++ [(a, v)] }

/-- Accept an argument from the command line with its words.  It must have a value if it takes one,
and must not have been given before. -/
def accept (r : Reading) (a : Argument) (words : List RawText) : Except UsageError Reading :=
  match a.kind with
  | .final => .error (if a = .version then .versionWanted else .helpWanted)
  | .flag => if r.has a then .error .conflict else r.add a "true"
  | _ =>
    match words with
    | [] => .error .invalidValue
    | word :: _ => if r.has a then .error .conflict else r.add a word

/-- Look at the words that were put off. -/
def settle (r : Reading) : Except UsageError Reading :=
  match r.pending with
  | none => .ok r
  | some (a, words) => { r with pending := none }.accept a words

/-- An argument with a value attached to it, or without one. -/
def argument (r : Reading) (a : Argument) (attached : Option RawText) :
    Except UsageError Reading := do
  let r ← r.settle
  match attached with
  | some word => r.accept a [word]
  | none => if a.takesValue then pure { r with pending := some (a, []) } else r.accept a []

/-- A positional argument. -/
def place (r : Reading) (word : RawText) : Except UsageError Reading :=
  match [Argument.exe, Argument.profile][r.positional]? with
  | none => .error .unknownArgument
  | some a => do
    let r ← r.settle
    pure { r with pending := some (a, [word]), positional := r.positional + 1 }

/-- A word after two dashes. -/
def long (r : Reading) (body : List UInt8) : Except UsageError Reading :=
  let equals := '='.toNat.toUInt8
  let name := body.takeWhile (· != equals)
  let attached : Option RawText :=
    match body.dropWhile (· != equals) with
    | [] => none
    | _ :: value => some ⟨value⟩
  match (Utf8.strict? name).bind Argument.ofName? with
  | none => .error .unknownArgument
  | some a =>
    if !a.takesValue && attached.isSome then .error .surplusValue else r.argument a attached

/-- Letters after one dash, and the value attached to the last of them. -/
def letters (r : Reading) : List UInt8 → Except UsageError Reading
  | [] => .ok r
  | b :: rest =>
    match Argument.ofLetter? (Char.ofNat b.toNat) with
    | none => .error .unknownArgument
    | some a =>
      if a.takesValue then
        match rest with
        | [] => r.argument a none
        | c :: value =>
          r.argument a (some (if c == '='.toNat.toUInt8 then ⟨value⟩ else ⟨c :: value⟩))
      else do
        let r ← r.argument a none
        r.letters rest

/-- A word that is no argument: a value that is waited for, or a positional argument. -/
def free (r : Reading) (word : RawText) : Except UsageError Reading :=
  match r.pending with
  | some (a, []) => .ok { r with pending := some (a, [word]) }
  | _ => r.place word

/-- The words of a command line. -/
def words (r : Reading) (onlyPositional : Bool) : List RawText → Except UsageError Reading
  | [] => r.settle
  | word :: rest =>
    if onlyPositional then do
      let r ← r.place word
      r.words true rest
    else
      match Word.ofRaw word with
      | .separator => r.words true rest
      | .long body => do
        let r ← r.long body
        r.words false rest
      | .letters body => do
        let r ← r.letters body
        r.words false rest
      | .plain => do
        let r ← r.free word
        r.words false rest

/-- The variables of the environment, for arguments that were not given. -/
def fromVariables (r : Reading) (env : Environment) : List Argument → Except UsageError Reading
  | [] => .ok r
  | a :: rest => do
    let r ←
      match a.fromEnvironment?.bind env.get? with
      | some word => if r.has a then pure r else r.add a word
      | none => pure r
    r.fromVariables env rest

/-- The rules between arguments: a control program excludes running without traces, both positional
arguments have to be there, and the sizes for preloading need preloading. -/
def check (r : Reading) : Except UsageError Reading :=
  if r.has .traceControl && r.has .noTrace then .error .conflict
  else if !r.has .exe || !r.has .profile then .error .missingArgument
  else if (r.has .preloadSize || r.has .preloadStride) && !r.has .preload then
    .error .missingArgument
  else .ok r

end Reading

/-- Reads a command line. -/
def read (env : Environment) (words : List RawText) : Except UsageError Reading := do
  let r ← ({} : Reading).words false words
  let r ← r.fromVariables env Argument.all
  r.check

end StartupBench.CommandLine
