import StartupBench.Desktop.Basic
import StartupBench.Interrupt
import StartupBench.Text.Blank

/-!
# The process table as a desktop

A system without windows still has processes, so every process stands in for one window of one
thread: its class is the file name of its program, its title the command line, and a message to
quit is the signal that asks a process to terminate.

The table is read anew for every question, as text with one process a line.  Exit codes are known
only of processes that were started here.  They are kept under the process number from the moment
the process is seen to have exited until its handle is given back.

What the system is asked is the record `ProcessCalls`, over any world; the desktop adds the exit
codes to it (`ProcessTable.World`).
-/

namespace StartupBench

/-! ## The system -/

/-- What the system says about a child process that is asked after. -/
inductive ChildState where
  | running
  | exited (code : Nat)
  | killed (signal : Nat)
  deriving DecidableEq, Repr

/-- What the desktop asks of the system.  The system takes process numbers as signed words. -/
structure ProcessCalls (κ σ : Type) where
  /-- The number of the running program itself. -/
  own : ProcessId
  /-- The process table as text. -/
  list : Try κ σ IoError (List UInt8)
  /-- Whether a process can be sent signals. -/
  probe : Int32 → Try κ σ Errno Unit
  /-- Ask a process to terminate. -/
  terminate : Int32 → Try κ σ Errno Unit
  /-- Ask after a child process, and let go of it if it has exited. -/
  poll : Int32 → Try κ σ Errno ChildState
  now : Act κ σ Instant
  sleep : Duration → Act κ σ Unit

/-! ## The table as text -/

/-- A process of the table. -/
structure ProcessEntry where
  pid : ProcessId
  /-- The file name of the program. -/
  windowClass : String
  /-- The words of the command line. -/
  commandLine : List String
  deriving DecidableEq, Repr

namespace ProcessEntry

/-- The value of a decimal digit. -/
def digit? (c : Char) : Option Nat :=
  if '0' ≤ c ∧ c ≤ '9' then some (c.toNat - '0'.toNat) else none

/-- The number that digits write. -/
def number? : (value : Nat) → List Char → Option Nat
  | value, [] => some value
  | value, c :: rest => (digit? c).bind fun d => number? (value * 10 + d) rest

/-- Reads a process number of 32 bits, with a plus in front if need be. -/
def pid? (word : String) : Option ProcessId :=
  let digits := match word.toList with
    | '+' :: rest => rest
    | cs => cs
  if digits.isEmpty then none
  else
    match number? 0 digits with
    | some n => if n < Nat.pow 2 32 then some ⟨n.toUInt32⟩ else none
    | none => none

/-- What follows the last slash. -/
def fileName (program : String) : String :=
  String.ofList ((program.toList.reverse.takeWhile (· != '/')).reverse)

/-- Reads a line: the process number, its state and the words of its command line.  A process that
has exited and only waits to be asked after has a state that begins with `Z`; it does not count. -/
def ofLine? (line : String) : Option ProcessEntry :=
  match Text.words line with
  | pid :: state :: program :: arguments =>
    match pid? pid with
    | none => none
    | some pid =>
      if state.toList.head? == some 'Z' then none
      else some ⟨pid, fileName program, program :: arguments⟩
  | _ => none

/-- Whether words occur one after the other in a list. -/
def occurs (wanted : List String) : List String → Bool
  | [] => wanted.isEmpty
  | word :: rest => wanted.isPrefixOf (word :: rest) || occurs wanted rest

/-- Whether the process fits a pattern: a title fits if its words stand one after the other in the
command line. -/
def fits (e : ProcessEntry) (p : WindowPattern) : Bool :=
  e.windowClass == p.windowClass &&
    p.title.all fun title => occurs (Text.words title) e.commandLine

/-- The processes in the text of a table, without the running program. -/
def ofTable (own : ProcessId) (table : List UInt8) : List ProcessEntry :=
  ((Text.lines (Utf8.lossy table)).filterMap ofLine?).filter fun e => e.pid ≠ own

/-- The least process number. -/
def leastPid : List ProcessEntry → Option ProcessId
  | [] => none
  | e :: rest =>
    match leastPid rest with
    | none => some e.pid
    | some least => some (if e.pid.number ≤ least.number then e.pid else least)

end ProcessEntry

/-! ## The desktop -/

/-- What is known of processes that were seen to have exited: their exit code, if there is one. -/
abbrev ExitCodes := ProcessId → Option (Option Int)

namespace ExitCodes

/-- Nothing is known. -/
def empty : ExitCodes := fun _ => none

/-- Note what is known of a process. -/
def insert (m : ExitCodes) (pid : ProcessId) (code : Option Int) : ExitCodes :=
  fun q => if q = pid then some code else m q

/-- Forget a process. -/
def erase (m : ExitCodes) (pid : ProcessId) : ExitCodes :=
  fun q => if q = pid then none else m q

end ExitCodes

/-- The exit codes and the world around them. -/
structure ProcessTable.World (σ : Type) where
  exitCodes : ExitCodes := .empty
  outside : σ

namespace ProcessTable

variable {κ σ α ε : Type}

/-- How long to pause between two looks at a process. -/
def pollInterval : Duration := ⟨0, 50000000⟩

/-- The exit code that stands for an end by the signal of number zero. -/
def signalBase : Nat := 128

/-- A question to the system. -/
def asking (x : Act κ σ α) : Act κ (World σ) α :=
  x.within World.outside fun s w => { w with outside := s }

/-- A question to the system that may fail. -/
def trying (x : Try κ σ ε α) : Try κ (World σ) ε α :=
  Try.within World.outside (fun s w => { w with outside := s }) x

/-- A system call that fails with an error of its own name. -/
def calling (operation : String) (x : Try κ σ Errno α) : Try κ (World σ) PrimitiveError α :=
  Try.mapError (fun e => ⟨operation, .os e⟩) (trying x)

/-- Change the exit codes. -/
def note (f : ExitCodes → ExitCodes) : Act κ (World σ) Unit :=
  Act.update fun w => { w with exitCodes := f w.exitCodes }

/-- The process number as the system takes it. -/
def rawPid (pid : ProcessId) : Int32 := pid.number.toInt32

/-- The processes of the table.  A table that cannot be read is empty. -/
def entries (c : ProcessCalls κ σ) : Act κ (World σ) (List ProcessEntry) := do
  match ← asking c.list.result with
  | .ok table => pure (ProcessEntry.ofTable c.own table)
  | .error e => do
    Act.log .debug .processes ("Failed to run ps: " ++ e.message)
    pure []

/-- The window of a process. -/
def windowOf (pid : ProcessId) : WindowId := ⟨pid.number.toNat⟩

/-- The process of a window. -/
def processOf? (w : WindowId) : Option ProcessId :=
  if 0 ≤ w.number ∧ w.number < 4294967296 then some ⟨w.number.toNat.toUInt32⟩ else none

/-- The owner of a window: the process it stands for. -/
def windowOwner (w : WindowId) : Except PrimitiveError (ThreadId × ProcessId) :=
  match processOf? w with
  | some pid => .ok (⟨pid.number⟩, pid)
  | none => .error ⟨"window_owner", .other "not a process id"⟩

/-- Look once whether a process has exited, and note how.  Of a process that was not started here
only its absence can be seen. -/
def pollExit (c : ProcessCalls κ σ) (pid : ProcessId) : Try κ (World σ) PrimitiveError Bool := do
  match ← Try.attempt (trying (c.poll (rawPid pid))) with
  | .ok .running => pure false
  | .ok (.exited code) => do
    Try.lift (note fun m => m.insert pid (some code))
    pure true
  | .ok (.killed signal) => do
    Try.lift (note fun m => m.insert pid (some (signalBase + signal : Nat)))
    pure true
  | .error .noChild => do
    match ← Try.attempt (trying (c.probe (rawPid pid))) with
    | .ok () => pure false
    | .error _ => do
      Try.lift (note fun m => m.insert pid none)
      pure true
  | .error e => Try.fail ⟨"waitpid", .os e⟩

/-- Whether a deadline has come; without one it never does. -/
def reached (c : ProcessCalls κ σ) (deadline : Option Instant) : Act κ (World σ) Bool :=
  match deadline with
  | none => pure false
  | some d => do
    let now ← asking c.now
    pure (decide (d ≤ now))

/-- Look once whether a process has exited, and pause if it has not and there is time left.  The
answer is how the wait ends, if it does. -/
def look (c : ProcessCalls κ σ) (pid : ProcessId) (deadline : Option Instant) :
    Act κ (World σ) (Option (Except PrimitiveError Waited)) := do
  match ← (pollExit c pid).result with
  | .error e => pure (some (.error e))
  | .ok true => pure (some (.ok .exited))
  | .ok false =>
    if ← reached c deadline then pure (some (.ok .timedOut))
    else
      asking (c.sleep pollInterval)
      pure none

/-- Look up to so many times whether a process has exited.  A process that never does keeps the
program waiting for good. -/
def awaitExit (c : ProcessCalls κ σ) (hung : κ) (pid : ProcessId) (deadline : Option Instant)
    (looks : Nat) : Try κ (World σ) PrimitiveError Waited :=
  ExceptT.mk do
    match ← Act.first (fun _ => look c pid deadline) looks 0 with
    | some ending => pure ending
    | none => Act.stop hung

/-- When a wait ends at the latest. -/
def deadline (c : ProcessCalls κ σ) (limit : Option Duration) : Act κ (World σ) (Option Instant) :=
  match limit with
  | none => pure none
  | some d => do
    let now ← asking c.now
    let later ← Instant.after now d
    pure (some later)

/-- The process table as a desktop.  A wait that takes more than `looks` looks at the process is
given up for good with the reason `hung`. -/
def desktop (c : ProcessCalls κ σ) (hung : κ) (looks : Nat) : Desktop κ (World σ) where
  findWindow p := do
    let es ← entries c
    pure ((ProcessEntry.leastPid (es.filter fun e => e.fits p)).map windowOf)
  windowOwner w := Try.ofExcept (windowOwner w)
  threadWindows t := do
    match ← asking (c.probe (rawPid ⟨t.number⟩)).result with
    | .ok () => pure [windowOf ⟨t.number⟩]
    | .error _ => pure []
  className w :=
    match processOf? w with
    | none => pure none
    | some pid => do
      let es ← entries c
      pure ((es.find? fun e => e.pid = pid).map (·.windowClass))
  openProcess pid := do
    calling "kill" (c.probe (rawPid pid))
    pure ⟨pid.number.toNat, pid⟩
  postQuit w message := do
    let (_, pid) ← Try.ofExcept (windowOwner w)
    Try.log .trace .processes ("Sending SIGTERM to " ++ pid.text ++ " for " ++ message.name)
    calling "kill" (c.terminate (rawPid pid))
  waitForExit h limit := do
    let d ← Try.lift (deadline c limit)
    awaitExit c hung h.pid d looks
  exitCode h := do
    let w ← Try.world
    pure (w.exitCodes h.pid).join
  closeProcess h := note fun m => m.erase h.pid

end ProcessTable

end StartupBench
