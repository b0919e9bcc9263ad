import StartupBench.Bench.Basic
import StartupBench.CommandLine.Options
import StartupBench.Desktop.ProcessTable
import StartupBench.Trace.Control

/-!
# A system to run on

`System` is everything the program asks of the system it runs on, over any world: programs, files,
processes, the clock with the interrupt flag, the standard output and the standard error, and some
facts that do not change while the program runs.  From these come the collaborators of a benchmark:
the desktop of the process table, the browser on it and the launcher.
-/

namespace StartupBench

/-- A stream that a user may be reading on a terminal. -/
structure Terminal (κ σ : Type) where
  /-- Whether the stream is a terminal.  It is asked anew each time. -/
  attended : Act κ σ Bool
  write : String → Try κ σ IoError Unit

/-- A system over a world `σ`. -/
structure System (κ σ : Type) where
  programs : Programs κ σ
  files : FileSystem κ σ
  processes : ProcessCalls κ σ
  alarm : Alarm κ σ
  /-- The standard output. -/
  stdout : Sink κ σ
  /-- The standard error. -/
  stderr : Terminal κ σ
  surroundings : Options.Surroundings
  /-- The directory that relative paths start from. -/
  workingDirectory : Path
  /-- The time, as reports name it. -/
  timestamp : String
  /-- The kind of system, as reports name it. -/
  platform : String
  /-- How often a process is looked at before waiting for it is given up for good. -/
  looks : Nat
  /-- Why the program never comes back from such a wait. -/
  hung : κ

namespace System

variable {κ σ α : Type}

/-- The desktop of the process table. -/
def desktop (sys : System κ σ) : Desktop κ (ProcessTable.World σ) :=
  ProcessTable.desktop sys.processes sys.hung sys.looks

/-- The browser of an executable. -/
def browser (sys : System κ σ) (exe : Path) : Browser κ (ProcessTable.World σ) :=
  Browser.ofExecutable exe sys.desktop

/-- The programs of the system, beside the exit codes of the process table. -/
def programsBeside (sys : System κ σ) : Programs κ (ProcessTable.World σ) :=
  sys.programs.within ProcessTable.World.outside fun s w => { w with outside := s }

/-- The launcher of the browser. -/
def launcher (sys : System κ σ) : Launcher κ (ProcessTable.World σ) :=
  Launcher.ofPrograms sys.programsBeside

/-- The tracer of a configuration. -/
def tracer (sys : System κ σ) (c : Config) : Tracer κ (ProcessTable.World σ) :=
  match c.traceControl with
  | some control => Tracer.control sys.programsBeside control sys.workingDirectory
  | none => Tracer.none

/-- The analyzer of a configuration. -/
def analyzer (sys : System κ σ) (c : Config) : Analyzer κ (ProcessTable.World σ) :=
  match c.analyzer with
  | some command => Analyzer.external sys.programsBeside command
  | none => Analyzer.none

/-- The benchmark of a configuration. -/
def bench (sys : System κ σ) (c : Config) (s : Settings) : Bench κ (ProcessTable.World σ) where
  settings := s
  browser := sys.browser c.exe
  launcher := sys.launcher
  tracer := sys.tracer c
  analyzer := sys.analyzer c
  files := sys.files.within ProcessTable.World.outside fun s w => { w with outside := s }
  output := sys.stdout.within ProcessTable.World.outside fun s w => { w with outside := s }
  settle time := ProcessTable.asking (sys.alarm.waitFor time)
  interrupted := ProcessTable.asking sys.alarm.raised
  sleep time := ProcessTable.asking (sys.processes.sleep time)

end System

end StartupBench
