import StartupBench.Command
import StartupBench.Desktop.Basic
import StartupBench.Files
import StartupBench.History
import StartupBench.Shell.Statement

/-!
# Running a shell script

A session runs the statements of a script on a tree of files.  It has variables, functions, streams,
the arguments of the script and the status of the last command, and collects what is printed and how
often the program that started it was interrupted.  It ends when a statement says so; otherwise the
status of the last command is the exit code.
-/

namespace StartupBench.Shell

/-- The path of the device that takes everything. -/
def nullDevice : Path := "/dev/null"

/-- Where a stream leads. -/
inductive Stream where
  | stdout
  | stderr
  | nowhere
  | file (at_ : Location)
  deriving DecidableEq, Repr

/-- A session. -/
structure Session where
  files : Files
  /-- The name of the script. -/
  name : RawText
  arguments : List RawText := []
  bindings : List (String × RawText) := []
  fixed : List String := []
  /-- The variables that other programs get. -/
  exported : List String := []
  functions : List (String × Statement) := []
  /-- The process of the session. -/
  own : ProcessId
  /-- The process that started it. -/
  parent : ProcessId
  /-- The line of the command that runs. -/
  line : Nat := 0
  status : Nat := 0
  /-- The status of the script that ran last inside a word. -/
  outputStatus : Nat := 0
  /-- Whether a command that fails ends the session. -/
  strict : Bool := false
  /-- Whether a variable that is not set ends the session. -/
  careful : Bool := false
  /-- Whether commands are shown before they run. -/
  showing : Bool := false
  /-- Whether patterns name no files. -/
  literal : Bool := false
  /-- In how many loops the statement stands. -/
  loops : Nat := 0
  inFunction : Bool := false
  /-- The values that variables have again behind the function. -/
  kept : List (String × Option RawText) := []
  /-- What can still be read. -/
  input : List UInt8 := []
  /-- The streams by their numbers. -/
  streams : List (Nat × Stream) := [(1, .stdout), (2, .stderr)]
  stdout : History (List UInt8) := {}
  stderr : History (List UInt8) := {}
  /-- What is run when a signal comes; a zero stands for the end of the session. -/
  traps : List (Nat × String) := []
  /-- The signals that came and have a trap. -/
  caught : List Nat := []
  /-- How often the parent was interrupted. -/
  interrupts : Nat := 0
  slept : Duration := .zero

/-- How a statement is left before its end. -/
inductive Leaving where
  /-- The session ends. -/
  | ended (status : ExitStatus)
  /-- So many loops end. -/
  | broken (loops : Nat)
  /-- All but one of so many loops end, and that one goes on. -/
  | continued (loops : Nat)
  /-- A function ends. -/
  | returned (status : Nat)

/-- A computation of a session. -/
abbrev Run (α : Type) : Type := ExceptT Leaving (StateM Session) α

/-! ## Variables -/

namespace Session

/-- The value of a variable or a parameter, if there is one. -/
def value? (s : Session) (name : String) : Option RawText :=
  match name with
  | "#" => some (toString s.arguments.length : String)
  | "?" => some (toString s.status : String)
  | "$" => some (toString s.own.number : String)
  | "0" => some s.name
  | "-" =>
    some ((if s.careful then "u" else "") ++ (if s.showing then "x" else "") ++
      (if s.literal then "f" else "") ++ (if s.strict then "e" else "") : String)
  | "!" => none
  | "PPID" => some (toString s.parent.number : String)
  | _ =>
    match name.toNat? with
    | some n => s.arguments[n - 1]?
    | none => (s.bindings.find? fun v => v.1 = name).map (·.2)

/-- Set a variable. -/
def bind (s : Session) (name : String) (value : RawText) : Session :=
  { s with bindings := (name, value) :: s.bindings.filter fun v => v.1 ≠ name }

/-- Forget a variable. -/
def unbind (s : Session) (name : String) : Session :=
  { s with bindings := s.bindings.filter fun v => v.1 ≠ name }

/-- The bytes at which values are split into fields. -/
def separators (s : Session) : List UInt8 :=
  ((s.bindings.lookup "IFS").map (·.bytes)).getD [0x20, 0x09, 0x0A]

/-- The stream of a number. -/
def stream? (s : Session) (number : Nat) : Option Stream := s.streams.lookup number

/-- Let a number stand for a stream. -/
def withStream (s : Session) (number : Nat) (stream : Stream) : Session :=
  { s with streams := (number, stream) :: s.streams.filter fun e => e.1 ≠ number }

end Session

/-! ## Printing -/

/-- Print something to a stream; answers whether that is possible. -/
def print (number : Nat) (bytes : List UInt8) : Run Bool := do
  let s ← get
  match s.stream? number with
  | none => pure false
  | some .stdout =>
    set { s with stdout := s.stdout.push bytes }
    pure true
  | some .stderr =>
    set { s with stderr := s.stderr.push bytes }
    pure true
  | some .nowhere => pure true
  | some (.file at_) =>
    if let some (.file content executable) := s.files.root.get? at_ then
      set { s with files := s.files.putAt at_ (.file (content ++ bytes) executable) }
    pure true

/-- Print text. -/
def printText (text : String) : Run Unit := do
  let _ ← print 1 (Utf8.encode text)

/-- Print a line that says what is wrong. -/
def say (text : String) : Run Unit := do
  let _ ← print 2 (Utf8.encode (text ++ "\n"))

/-- Say what is wrong with the command that runs. -/
def complain (text : String) : Run Unit := do
  let s ← get
  say (s.name.display ++ ": " ++ toString s.line ++ ": " ++ text)

/-- Say what is wrong and end the session. -/
def fail {α : Type} (text : String) (status : Nat := 2) : Run α := do
  complain text
  throw (.ended (.exited status))

/-- Set a variable, if it is not fixed. -/
def assign (name : String) (value : RawText) : Run Unit := do
  if (← get).fixed.contains name then fail (name ++ ": is read only")
  else modify fun s => s.bind name value

/-! ## Sessions apart -/

/-- Run something of which only the files, what was printed and what was done to others is kept.
Answers how it ended. -/
def apart (x : Run Unit) : Run Nat := do
  let s ← get
  let traps := s.traps.filter fun t => t.2.isEmpty
  let (result, after) := x.run { s with loops := 0, traps }
  let status := match result with
    | .ok () => after.status
    | .error (.ended (.exited code)) => code
    | .error (.ended (.killed signal)) => 128 + signal
    | .error (.returned status) => status
    | .error _ => after.status
  set { s with
    files := { after.files with cwd := s.files.cwd }
    input := after.input, stdout := after.stdout, stderr := after.stderr
    interrupts := after.interrupts, slept := after.slept, status }
  pure status

/-- Run something apart and answer what it prints. -/
def captured (x : Run Unit) : Run (List UInt8) := do
  let s ← get
  set { s.withStream 1 .stdout with stdout := {} }
  let _ ← apart x
  let printed := (← get).stdout.toList.flatten
  modify fun after => { after with stdout := s.stdout, streams := s.streams }
  pure printed

end StartupBench.Shell
