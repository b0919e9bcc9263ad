import StartupBench.Machine.Programs
import StartupBench.System

/-!
# A machine as a system
-/

namespace StartupBench.Machine

/-- Wait until an instant. -/
def waitUntil (deadline : Instant) : Act Halt Machine Unit :=
  Act.update fun m => if m.clock ≤ deadline then { m with clock := deadline } else m

/-- The clock and the interrupt flag.  Nothing raises the flag while it is waited for. -/
def alarm : Alarm Halt Machine where
  raised := Act.reading Machine.raised
  now := Act.reading Machine.clock
  waitUntil deadline := do
    waitUntil deadline
    Act.reading Machine.raised

/-- The processes. -/
def processCalls (own : ProcessId) : ProcessCalls Halt Machine where
  own
  list := Try.step fun m => (m.tableText, m)
  probe number := Try.step fun m => m.signal number id
  terminate number := Try.step fun m => m.terminate number
  poll number := Try.step fun m => m.poll number
  now := Act.reading Machine.clock
  sleep d := do
    let now ← Act.reading Machine.clock
    waitUntil (later now d)

/-- The standard output. -/
def stdoutSink : Sink Halt Machine where
  write text := Try.update fun m => { m with stdout := m.stdout ++ text }
  flush := pure ()

/-- The standard error, which is no terminal.  What is written there is seen in the notices. -/
def stderrStream : Terminal Halt Machine where
  attended := pure false
  write _ := pure ()

/-- The path of a location. -/
def pathOf (l : Location) : Path :=
  match l with
  | [] => ⟨⟨[Path.slash]⟩⟩
  | names => ⟨⟨names.flatMap fun name => Path.slash :: name⟩⟩

/-- Where temporary files are made: the environment says so. -/
def temporary (env : CommandLine.Environment) (cwd : Path) : Path :=
  cwd.join ⟨(env.get? "TMPDIR").getD "/tmp"⟩

/-- More looks than the life of an application can take. -/
def patience : Nat := 100000

/-- A machine as a system.  Reports bear the time at which the clock of the machine starts. -/
def system (m : Machine) (s : Options.Surroundings) : System Halt Machine where
  programs := programs
  files := (Files.fileSystem Halt (temporary s.env (pathOf m.files.cwd))).within Machine.files
    fun f m => { m with files := f }
  processes := processCalls m.own
  alarm := alarm
  stdout := stdoutSink
  stderr := stderrStream
  surroundings := s
  workingDirectory := pathOf m.files.cwd
  timestamp := "1970-01-01T00:00:00+00:00"
  platform := "memory"
  looks := patience
  hung := .hung

/-! ## Furnishing a machine -/

/-- Put a file at a path, with the directories that lead to it. -/
def withFile (m : Machine) (p : Path) (content : List UInt8) (executable : Bool) : Machine :=
  { m with files := m.files.place p content executable }

/-- Put an executable file at a path and say what it does. -/
def withExecutable (m : Machine) (p : Path) (b : Behavior) : Machine :=
  let m := m.withFile p [] true
  match m.files.find p with
  | .ok place => { m with behaviors := (place.location, b) :: m.behaviors }
  | .error _ => m

/-- Put an executable file at a path in each directory of programs. -/
def withProgram (m : Machine) (name : String) (b : Behavior) : Machine :=
  m.searchPath.foldl (fun m directory => m.withExecutable (directory.join name) b) m

/-- The names of the shell. -/
def shellNames : List String := ["sh", "dash", "bash"]

/-- The commands of scripts that are programs as well. -/
def utilityNames : List String :=
  Shell.Utility.names ++ ["echo", "false", "kill", "printf", "pwd", "test", "true"]

/-- The directories that every machine has. -/
def standardDirectories : List Path :=
  ["/dev", "/etc", "/home", "/opt", "/proc", "/root", "/sys", "/tmp", "/usr", "/var"]

/-- The machine with the directories and programs that every machine has, and a device that is no
program. -/
def furnished (m : Machine) : Machine :=
  let files := standardDirectories.foldl Files.makeDirectories m.files
  let m := { m with files }.withFile Shell.nullDevice [] false
  let m := shellNames.foldl (fun m name => m.withProgram name .shell) m
  let m := utilityNames.foldl (fun m name => m.withProgram name (.utility name)) m
  m.withProgram "env" .runner

end StartupBench.Machine
