import StartupBench.Machine.Basic

/-!
# Finding what a command runs

A program without a slash in its name is looked for in the directories of the search path.  An
executable file of which the machine does not know what it does is a script: its first line names
the program that runs it, which gets the path of the script before the arguments.  That program may
be a script itself, but not endlessly so.
-/

namespace StartupBench.Machine

/-- An executable file: the path under which it was found, and where it is. -/
structure Executable where
  path : Path
  location : Location

/-! ## Finding an executable -/

/-- The executable file at a path. -/
def executableAt (m : Machine) (p : Path) : Except IoError Executable := do
  let place ← m.files.find p
  match place.here with
  | .file _ true => .ok ⟨p, place.location⟩
  | _ => .error (.os .accessDenied)

/-- Look for a program in directories.  Where it may not be run is remembered in case it is found
nowhere. -/
def search (m : Machine) (name : Path) : (denied : Bool) → List Path → Except IoError Executable
  | denied, [] => .error (.os (if denied then .accessDenied else .noEntry))
  | denied, directory :: rest =>
    match m.executableAt (directory.join name) with
    | .ok e => .ok e
    | .error (.os .noEntry) => search m name denied rest
    | .error (.os .notADirectory) => search m name denied rest
    | .error (.os .accessDenied) => search m name true rest
    | .error e => .error e

/-- The executable file of the name of a program. -/
def program (m : Machine) (name : Path) : Except IoError Executable :=
  if name.bytes.isEmpty then .error (.os .noEntry)
  else if name.bytes.contains Path.slash then m.executableAt name
  else m.search name false m.searchPath

/-! ## The first line of a script -/

/-- The program that runs a script, and the argument it gets before the path of the script. -/
structure Interpreter where
  path : Path
  argument : Option RawText
  deriving DecidableEq, Repr

namespace Interpreter

/-- How much of a script is looked at. -/
def reach : Nat := 256

/-- Whether a byte separates the words of the first line. -/
def isBlank (b : UInt8) : Bool := b == 0x20 || b == 0x09

/-- The words of the first line behind its mark: a program, and everything that follows. -/
def ofLine (line : List UInt8) : Interpreter :=
  let (name, rest) := line.span fun b => !isBlank b
  ⟨⟨⟨name⟩⟩, if rest.isEmpty then none else some ⟨rest.dropWhile isBlank⟩⟩

/-- The interpreter that the first line names.  A line that is not complete in the part that is
looked at counts if at least the program is. -/
def read? (script : List UInt8) : Option Interpreter :=
  match script.take reach with
  | 0x23 :: 0x21 :: text =>
    if text.contains 0x0A then
      let line := (text.takeWhile (· != 0x0A)).dropWhile isBlank
      let line := (line.reverse.dropWhile isBlank).reverse
      if line.isEmpty then none else some (ofLine line)
    else
      let line := text.dropWhile isBlank
      if script.length < reach || line.any isBlank then some (ofLine line) else none
  | _ => none

end Interpreter

/-! ## What is run in the end -/

/-- What is run in the end. -/
structure Invocation where
  behavior : Behavior
  location : Location
  arguments : List RawText

/-- What is run if a program that should run another cannot. -/
def Invocation.refusal (name : RawText) (e : IoError) : Invocation :=
  let complaint (reason : Errno) : String :=
    "env: '" ++ name.display ++ "': " ++ reason.description ++ "\n"
  match e with
  | .os .noEntry => ⟨.always 127 (complaint .noEntry), [], []⟩
  | .os reason => ⟨.always 126 (complaint reason), [], []⟩
  | e => ⟨.always 126 ("env: '" ++ name.display ++ "': " ++ e.message ++ "\n"), [], []⟩

/-- What an executable file does, if it is no script. -/
def behavior? (m : Machine) (l : Location) : Option Behavior :=
  (m.behaviors.find? fun b => b.1 = l).map (·.2)

/-- What an executable file runs in the end, through at most `depth` programs. -/
def resolve (m : Machine) :
    (depth : Nat) → Executable → (arguments : List RawText) → Except IoError Invocation
  | 0, _, _ => .error (.os .tooManyLinks)
  | depth + 1, e, arguments =>
    match m.behavior? e.location with
    | some .runner =>
      match arguments with
      | [] => .ok ⟨.always 0 "", e.location, []⟩
      | name :: rest =>
        match m.program ⟨name⟩ >>= fun next => m.resolve depth next rest with
        | .ok invocation => .ok invocation
        | .error reason => .ok (.refusal name reason)
    | some b => .ok ⟨b, e.location, arguments⟩
    | none =>
      match Interpreter.read? ((m.files.content? e.path).getD []) with
      | none => .error (.os .noExec)
      | some i => do
        let next ← m.executableAt i.path
        m.resolve depth next (i.argument.toList ++ e.path.raw :: arguments)

/-- Through how many programs a script may be run. -/
def deepest : Nat := 6

/-- What a command runs in the end.  `lenient` says whether an executable file that is nothing else
is run as a script of the shell. -/
def invocation (m : Machine) (lenient : Bool) (c : Command) : Except IoError Invocation :=
  if c.program.bytes.contains 0 || c.arguments.any fun a => a.bytes.contains 0 then
    .error (.other "nul byte found in provided data")
  else do
    let e ← m.program c.program
    match m.resolve deepest e c.arguments with
    | .error (.os .noExec) =>
      if lenient then .ok ⟨.shell, e.location, e.path.raw :: c.arguments⟩
      else .error (.os .noExec)
    | result => result

end StartupBench.Machine
