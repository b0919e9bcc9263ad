import StartupBench.Desktop.ProcessTable
import StartupBench.FileSystem
import StartupBench.History
import StartupBench.Machine.Process

/-!
# A machine in memory

A machine has files, processes and a clock that moves only when somebody waits.  The machine knows
of some executable files what they do; the others have to be scripts.  A tool does on each call what
is written down for that call, and an application lives for a while in a process of its own.

The calls of tools and applications are noted before they do anything.
-/

namespace StartupBench

namespace Machine

/-! ## What executables do -/

/-- What one call of a tool does. -/
structure ToolCall where
  stdout : List UInt8 := []
  stderr : List UInt8 := []
  code : UInt8 := 0
  /-- How often it interrupts the program. -/
  interrupts : Nat := 0
  deriving Repr

/-- An application. -/
structure Application where
  reaction : Reaction
  /-- Whether it lives in a process that it starts itself. -/
  delegates : Bool := false
  deriving Repr

/-- What an executable does. -/
inductive Behavior where
  /-- It does something on each of the first calls, and nothing on the others. -/
  | tool (calls : List ToolCall)
  | application (a : Application)
  /-- It runs scripts. -/
  | shell
  /-- It does what a command of a script of that name does. -/
  | utility (name : RawText)
  /-- It runs the program that its arguments name. -/
  | runner
  /-- It complains and ends. -/
  | always (code : UInt8) (complaint : String)
  deriving Repr

/-- Why the program never comes back from a call. -/
inductive Halt where
  /-- It was interrupted a second time. -/
  | forced
  /-- It waits for a process that does not exit. -/
  | hung
  deriving DecidableEq, Repr

/-- The exit code of a program that was interrupted a second time. -/
def forcedCode : Nat := 1

end Machine

open Machine

/-- A machine. -/
structure Machine where
  files : Files := {}
  /-- What executables that are no scripts do. -/
  behaviors : List (Location × Behavior) := []
  /-- The directories in which programs are looked for. -/
  searchPath : List Path := ["/usr/bin", "/bin"]
  /-- What the process table shows in any case; none if it cannot be read. -/
  table : Option (List UInt8) := some []
  /-- The number of the program itself. -/
  own : ProcessId := ⟨3907213⟩
  clock : Instant := .ofSeconds 1
  /-- The interrupt flag. -/
  raised : Bool := false
  processes : List Process := []
  /-- How many processes were started. -/
  started : Nat := 0
  /-- The process of the application that was started last. -/
  latest : Option ProcessId := none
  stdout : String := ""
  /-- The variables that a script finds set. -/
  environment : List (String × RawText) := []
  /-- The calls of tools and applications. -/
  calls : History (Location × List RawText) := {}

namespace Machine

/-! ## Processes -/

/-- The process of a number. -/
def process? (m : Machine) (number : Int32) : Option Process :=
  m.processes.find? fun p => ProcessTable.rawPid p.pid = number && p.isThere m.clock

/-- Change the process of a number. -/
def change (m : Machine) (number : Int32) (f : Process → Process) : Machine :=
  { m with processes := m.processes.map fun p =>
      if ProcessTable.rawPid p.pid = number then f p else p }

/-- Whether signals can be sent to a number: of a process, or of the group of the program. -/
def reaches (m : Machine) (number : Int32) : Bool :=
  number = 0 || number = ProcessTable.rawPid m.own || (m.process? number).isSome

/-- The number of the process that is started next but `n`. -/
def pidAfter (m : Machine) (n : Nat) : ProcessId :=
  ⟨m.own.number + (m.started + n + 1).toUInt32⟩

/-- How long an application lives. -/
def lifetime : Duration := ⟨2, 500000000⟩

/-- An instant after a time. -/
def later (now : Instant) (d : Duration) : Instant := .ofNanos (now.toNanos + d.toNanos)

/-- Start the process of a program that has already ended. -/
def startEnded (m : Machine) (c : Command) (e : ExitStatus) : ProcessId × Machine :=
  let p : Process :=
    { pid := m.pidAfter 0, ours := true, reaction := .dies, due := m.clock, ending := some e
      command := c }
  (p.pid, { m with processes := m.processes ++ [p], started := m.started + 1 })

/-- Start an application.  The answer is the process that was started by the program. -/
def startApplication (m : Machine) (a : Application) (c : Command) : ProcessId × Machine :=
  let due := later m.clock lifetime
  let first := m.pidAfter 0
  let p : Process :=
    { pid := if a.delegates then m.pidAfter 1 else first
      ours := !a.delegates, reaction := a.reaction, due, command := c }
  let started := if a.delegates then 2 else 1
  (first,
    { m with
      processes := m.processes ++ [p]
      started := m.started + started
      latest := some p.pid })

/-- The process of the application that was started last, while it is on the machine. -/
def latestProcess? (m : Machine) : Option Process :=
  m.latest.bind fun pid => m.process? (ProcessTable.rawPid pid)

/-- The process table as text. -/
def tableText (m : Machine) : Except IoError (List UInt8) :=
  match m.table with
  | none => .error (.os .noEntry)
  | some text => .ok (text ++ ((m.latestProcess?.map fun p => p.line.bytes).getD []))

/-- Send a signal that has an effect on the process of a number. -/
def signal (m : Machine) (number : Int32) (f : Process → Process) : Except Errno Unit × Machine :=
  if m.reaches number then (.ok (), m.change number f) else (.error .noProcess, m)

/-- Ask a process to terminate. -/
def terminate (m : Machine) (number : Int32) : Except Errno Unit × Machine :=
  m.signal number fun p => p.askToEnd m.clock

/-- End a process whatever it does. -/
def kill (m : Machine) (number : Int32) : Except Errno Unit × Machine :=
  m.signal number fun p => p.finish m.clock (.killed Process.killSignal)

/-- Ask after a process that the program started, and let go of it if it has ended.  The least
number stands for no process and no group of processes. -/
def poll (m : Machine) (number : Int32) : Except Errno ChildState × Machine :=
  if number = Int32.minValue then (.error .noProcess, m)
  else
    match m.processes.find? fun p => ProcessTable.rawPid p.pid = number && p.ours with
    | none => (.error .noChild, m)
    | some p =>
      let without := { m with processes := m.processes.filter fun q => q.pid ≠ p.pid }
      match p.ended? m.clock with
      | none => (.ok .running, m)
      | some (.exited code) => (.ok (.exited code), without)
      | some (.killed number) => (.ok (.killed number), without)

/-! ## Noted calls -/

/-- The calls of an executable. -/
def callsAt (m : Machine) (l : Location) : List (List RawText) :=
  (m.calls.toList.filter fun c => c.1 = l).map (·.2)

/-- Words as they are noted: a text with each word and then `stop`. -/
def written (stop : UInt8) (words : List RawText) : List UInt8 :=
  words.flatMap fun w => w.bytes ++ [stop]

/-- The lines that are read in the notes of the calls of a tool, which have a line for each
argument. -/
def notedCalls (m : Machine) (l : Location) : List (List String) :=
  (m.callsAt l).map fun arguments => Text.lines (Utf8.lossy (written 0x0A arguments))

/-- The lines that are read in the notes of the calls of applications, which have a line for each
call. -/
def notedLaunches (m : Machine) (locations : List Location) : List String :=
  let calls := (m.calls.toList.filter fun c => locations.contains c.1).map (·.2)
  Text.lines (Utf8.lossy (calls.flatMap fun words => words.map (·.bytes) |>.intersperse [0x20]
    |>.flatten |> (· ++ [0x0A])))

end Machine

end StartupBench
