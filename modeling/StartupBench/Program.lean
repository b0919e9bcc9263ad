import StartupBench.CommandLine.Usage
import StartupBench.Log.Filter
import StartupBench.Log.Line
import StartupBench.Results.Export
import StartupBench.Results.Summary
import StartupBench.System

/-!
# The program

From the words of the command line to the exit code.  The program reads its options, makes a
configuration of them, runs the benchmark, lets go of everything it acquired and only then says what
went wrong.

Everything it says on the way, log events and plain text alike, is a notice; `Program.screen` is the
text of them that the user sees, which depends on the log filter.
-/

namespace StartupBench.Program

variable {κ σ α : Type}

/-! ## Failures -/

/-- Why the program fails: an error and the causes behind it. -/
structure Failure where
  message : String
  causes : List String := []
  deriving DecidableEq, Repr

/-- A failure of a run in a context. -/
def Failure.inContext (context : String) (e : RunError) : Failure :=
  ⟨context, e.message :: e.causes⟩

/-- The failure of options that are no configuration. -/
def Failure.ofRefusal (r : Options.Refusal) : Failure :=
  ⟨"Failed to create runner config", r.message :: r.causes⟩

/-- The failure of a configuration that is not suited for a run. -/
def Failure.ofRunError (e : RunError) : Failure := ⟨e.message, e.causes⟩

/-- A cause in the report of a failure.  Its lines are indented; a number stands before the first of
them. -/
def causeText (number : Option Nat) (text : String) : String :=
  let (first, further) := match number with
    | some n =>
      let digits := toString n
      (Table.copies (5 - digits.length) " " ++ digits ++ ": ", "       ")
    | none => ("    ", "    ")
  first ++ ("\n" ++ further).intercalate (Text.splitOn '\n' text)

/-- The report of a failure.  Causes are numbered if there are several. -/
def Failure.report (f : Failure) : String :=
  let texts := match f.causes with
    | [] => []
    | [cause] => [causeText none cause]
    | causes => causes.zipIdx.map fun c => causeText (some c.2) c.1
  let list := if texts.isEmpty then "" else "\n\nCaused by:\n" ++ "\n".intercalate texts
  "Error: " ++ f.message ++ list ++ "\n"

/-! ## Endings -/

/-- How the program ends. -/
inductive Ending where
  | success
  /-- The user interrupted the run. -/
  | interrupted
  | failure (f : Failure)
  /-- The command line is not understood. -/
  | misused

/-- The exit code. -/
def Ending.code : Ending → Nat
  | success => 0
  | failure _ => 1
  | misused => 2
  | interrupted => 130

/-! ## What the user reads

Text for the user goes to the standard error, and it is a notice if it could be written there.  What
becomes of a failure to write differs: a line in the course of the program that cannot be printed is
a panic (`printLine`), a summary that cannot be shown is an error (`showLines`), and the last word
of a program is simply lost (`mention`). -/

/-- Write text to the standard error. -/
def writeText (sys : System κ σ) (text : String) : Try κ σ IoError Unit := do
  sys.stderr.write text
  Try.lift (Act.console text)

/-- Write lines to the standard error, up to the first that cannot be written. -/
def showLines (sys : System κ σ) : List String → Try κ σ IoError Unit
  | [] => pure ()
  | line :: rest => do
    writeText sys (line ++ "\n")
    showLines sys rest

/-- Print a line.  That this is not possible is a panic. -/
def printLine (sys : System κ σ) (line : String) : Act κ σ Unit := do
  if let .error e ← (writeText sys (line ++ "\n")).result then
    Act.panic ("failed printing to stderr: " ++ e.message)

/-- Print lines. -/
def printLines (sys : System κ σ) : List String → Act κ σ Unit
  | [] => pure ()
  | line :: rest => do
    printLine sys line
    printLines sys rest

/-- Print text.  That this is not possible is not noticed. -/
def mention (sys : System κ σ) (text : String) : Act κ σ Unit := do
  let _ ← (writeText sys text).result
  pure ()

/-! ## The benchmark -/

/-- The worlds of the runner, the benchmark and the process table, one inside the other. -/
abbrev World (σ : Type) : Type := Runner.World (Bench.World (ProcessTable.World σ))

/-- The world in which a run begins. -/
def World.start (progress : Progress) (w : σ) : World σ :=
  { progress := some progress, subject := { outside := { outside := w } } }

/-- The world of the system. -/
def World.system (w : World σ) : σ := w.subject.outside.outside

/-- A step of the system. -/
def outside (x : Act κ σ α) : Act κ (World σ) α :=
  Runner.onSubject (Bench.asking (ProcessTable.asking x))

/-- The lines that say what is benchmarked. -/
def banner (c : Config) : List String :=
  let modes := (if c.coldStart then ["cold start"] else []) ++
    (if c.preload.enabled then ["preload"] else []) ++
    (if c.prefetch then [] else ["no prefetch"])
  let modesText := if modes.isEmpty then "" else " [" ++ ", ".intercalate modes ++ "]"
  let name := if c.color then "\x1b[1m\x1b[36mlaunchbench\x1b[39m\x1b[0m" else "launchbench"
  ["", name ++ ": " ++ c.exeName ++ modesText ++ " - " ++ toString c.iterations ++ " iterations",
    ""]

/-- Say what is benchmarked, and what of it will not be measured. -/
def announce (c : Config) (family : Family) : Act κ σ Unit := do
  Act.log .info .entry ("Benchmarking " ++ c.exe.display ++ " (" ++ family.name ++ ")")
  match c.traceControl, c.analyzer with
  | none, _ => Act.log .warn .entry "Trace capture disabled, no metrics will be recorded"
  | some _, none =>
    Act.log .warn .entry "No --analyzer given, traces are captured but not analyzed"
  | some _, some _ => pure ()

/-- What the report of a run says about it as a whole. -/
def runSummary (sys : System κ σ) (c : Config) (r : Report) : RunSummary where
  timestamp := sys.timestamp
  platform := sys.platform
  exe := c.exe
  profile := c.profile
  iterations := c.iterations
  completed := r.completed
  failed := r.failed
  coldStart := c.coldStart
  prefetch := c.prefetch
  preload := c.preload.enabled

/-- Show the summary of a run to somebody who reads it on a terminal. -/
def summarize (sys : System κ σ) (c : Config) (r : Report) (l : Ledger) :
    Try κ σ IoError Unit := do
  if ← Try.lift sys.stderr.attended then showLines sys (l.summaryLines r.completed c.color)

/-- Write the report of a run to a file. -/
def writeReport (sys : System κ σ) (c : Config) (r : Report) (l : Ledger) (file : Path) :
    Try κ σ IoError Unit :=
  sys.files.write file (Utf8.encode ((runSummary sys c r).reportText l))

/-- Write the report of a run to its file, if it has one. -/
def exportReport (sys : System κ σ) (c : Config) (r : Report) (l : Ledger) :
    Try κ σ IoError Unit :=
  match c.json with
  | some file => do
    writeReport sys c r l file
    Try.lift (printLine sys ("Results exported to: " ++ file.display))
  | none => pure ()

/-- How the program ends after a run. -/
def conclude (sys : System κ σ) (c : Config) (r : Report) : Act κ σ Ending :=
  match r.error with
  | none => pure .success
  | some .interrupted => do
    printLine sys ("Interrupted after " ++ toString r.completed ++ " of " ++
      toString c.iterations ++ " iterations")
    pure .interrupted
  | some e =>
    pure (.failure (.inContext
      ("Iteration " ++ toString (r.failed.getD r.completed) ++ " failed") e))

/-- Show and write what a run has found.  A summary that cannot be shown ends the program before
the report is written. -/
def publish (sys : System κ σ) (c : Config) (r : Report) (l : Ledger) : Act κ σ Ending := do
  match ← (summarize sys c r l).result with
  | .error e => pure (.failure ⟨e.message, []⟩)
  | .ok () =>
    match ← (exportReport sys c r l).result with
    | .error e => pure (.failure ⟨"Failed to export JSON", [e.message]⟩)
    | .ok () => conclude sys c r

/-- Run a benchmark and let go of it. -/
def benchmark (sys : System κ σ) (c : Config) (s : Settings) : Act κ (World σ) Ending := do
  let bench := sys.bench c s
  let runner := bench.runner c.iterations { attempts := c.launchAttempts }
  Act.ensuring
    (do
      announce c bench.browser.family
      match ← runner.run.result with
      | .error e => pure (.failure (.inContext "Benchmark run failed" e))
      | .ok report => do
        let ledger := (← Act.world).subject.state.ledger
        outside (publish sys c report ledger))
    (do
      runner.drop
      Runner.onSubject bench.drop)

/-! ## The whole -/

/-- Write to the standard output.  A failure to do so is not noticed. -/
def say (sys : System κ σ) (text : String) : Act κ σ Unit := do
  let _ ← (sys.stdout.write text).result
  let _ ← sys.stdout.flush.result
  pure ()

/-- What the program is about to run. -/
structure Plan where
  config : Config
  settings : Settings
  /-- Whether somebody watches the progress. -/
  watched : Bool

/-- The progress indicator of a run. -/
def Plan.progress (p : Plan) : Progress :=
  if p.watched then .visible p.config.iterations else .hidden p.config.iterations

/-- From the options to a plan.  The user is told what is benchmarked. -/
def plan (sys : System κ σ) (o : Options) : Try κ σ Failure Plan := do
  let isFile ← Try.lift (sys.files.isFile o.exe)
  let config ← Try.ofExcept ((o.config sys.surroundings isFile).mapError Failure.ofRefusal)
  Try.lift (printLines sys (banner config))
  let settings ← Try.ofExcept ((Settings.ofConfig config).mapError Failure.ofRunError)
  let watched ← Try.lift sys.stderr.attended
  pure { config, settings, watched }

/-- What the program does with its options. -/
def perform (sys : System κ σ) (o : Options) : Act κ σ Ending := do
  match ← (plan sys o).result with
  | .error f => pure (.failure f)
  | .ok p =>
    Act.enclosed (World.start p.progress) World.system (benchmark sys p.config p.settings)

/-- What the program does with the words of its command line. -/
def ending (sys : System κ σ) (words : List RawText) : Act κ σ Ending :=
  match Options.read sys.surroundings.env words with
  | .ok o => perform sys o
  | .error .versionWanted => do
    say sys ("launchbench " ++ version ++ "\n")
    pure .success
  | .error .helpWanted => do
    say sys CommandLine.overview
    pure .success
  | .error e => do
    mention sys ("error: " ++ e.message ++ "\n\nFor more information, try '--help'.\n")
    pure .misused

/-- Run the program.  Answers its exit code; a failure is reported at the very end. -/
def run (sys : System κ σ) (words : List RawText) : Act κ σ Nat := do
  let e ← ending sys words
  if let .failure f := e then mention sys f.report
  pure e.code

/-! ## The screen -/

/-- The log filter: the one of the environment, if it can be read, or else everything down to
progress or to warnings. -/
def logFilter (env : CommandLine.Environment) (verbose : Bool) : Log.Filter :=
  let given := (env.get? "RUST_LOG").bind fun text => text.toString?.bind Log.Filter.read?
  given.getD (Log.Filter.upTo (if verbose then .info else .warn))

/-- Whether log lines are coloured. -/
def colorsLog (env : CommandLine.Environment) : Bool :=
  ((env.get? "NO_COLOR").getD "").bytes.isEmpty

/-- What the user sees of notices.  Every log line bears the same time. -/
def screen (env : CommandLine.Environment) (words : List RawText) (time : String)
    (notices : List Notice) : String :=
  let verbose := match Options.read env words with
    | .ok o => o.verbose
    | .error _ => false
  let filter := logFilter env verbose
  String.join (notices.map fun
    | .console text => text
    | .event e => if filter.shows e then e.line time (colorsLog env) else "")

end StartupBench.Program
