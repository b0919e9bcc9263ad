import StartupBench.Analysis.Analyzer
import StartupBench.Browser.Basic
import StartupBench.Config
import StartupBench.Prefetch
import StartupBench.Results.Basic
import StartupBench.Runner.Basic
import StartupBench.Trace.Basic

/-!
# The startup benchmark

What is measured and with whose help.  A `Bench` holds the settings and the collaborators: the
browser on its desktop, the launcher, the tracer, the analyzer, the file system and the place the
result lines are written to.  They all work on the same world `σ`.

What has been acquired and has to be given back is noted in `Bench.State`: the preload setting that
was overridden, the temporary directory, whether a trace is being captured and whether the browser
may be running.  `Bench.tearDown` looks only there, so that it does the right thing after any
failure.
-/

namespace StartupBench

/-- Where text is written to. -/
structure Sink (κ σ : Type) where
  write : String → Try κ σ IoError Unit
  flush : Try κ σ IoError Unit

/-- A place in a part of the world. -/
def Sink.within {κ σ τ : Type} (get : τ → σ) (put : σ → τ → τ) (s : Sink κ σ) : Sink κ τ where
  write text := Try.within get put (s.write text)
  flush := Try.within get put s.flush

/-- A benchmark and its collaborators. -/
structure Bench (κ σ : Type) where
  settings : Settings
  browser : Browser κ σ
  launcher : Launcher κ σ
  tracer : Tracer κ σ
  analyzer : Analyzer κ σ
  files : FileSystem κ σ
  output : Sink κ σ
  /-- Let the browser work for a time; whether the user interrupted it. -/
  settle : Duration → Act κ σ Bool
  /-- Whether the user wants to stop, asked while a profile is made. -/
  interrupted : Act κ σ Bool
  /-- Pause. -/
  sleep : Duration → Act κ σ Unit

/-- What a benchmark has measured and acquired so far. -/
structure Bench.State where
  ledger : Ledger := {}
  /-- The preload setting from before the run. -/
  savedPreload : Option PreloadState := none
  temporary : Option Path := none
  /-- Whether a trace is being captured. -/
  tracing : Bool := false
  /-- Whether the browser was launched and has not been seen to quit. -/
  launched : Bool := false
  /-- The trace that is to be analyzed. -/
  kernelFile : Option Path := none

/-- The state of a benchmark and the world around it. -/
structure Bench.World (σ : Type) where
  state : Bench.State := {}
  outside : σ

namespace Bench

variable {κ σ α : Type}

/-! ## Steps on the world and on the state -/

/-- A step of a collaborator. -/
def asking (x : Act κ σ α) : Act κ (World σ) α :=
  x.within World.outside fun s w => { w with outside := s }

/-- A step of a collaborator that may fail. -/
def trying {ε : Type} (x : Try κ σ ε α) : Try κ (World σ) ε α :=
  Try.within World.outside (fun s w => { w with outside := s }) x

/-- A step of a collaborator that fails with an error of the system. -/
def tryingIo (x : Try κ σ IoError α) : Try κ (World σ) RunError α :=
  Try.mapError RunError.io (trying x)

/-- Change the state. -/
def note (f : State → State) : Act κ (World σ) Unit :=
  Act.update fun w => { w with state := f w.state }

/-- A part of the state. -/
def stateOf (f : State → α) : Act κ (World σ) α := Act.reading fun w => f w.state

/-! ## Setting up -/

/-- The name under which results are recorded. -/
def graphName (b : Bench κ σ) : String := b.settings.exe.fileNameText

/-- The profile, quoted. -/
def profileText (b : Bench κ σ) : String := "\"" ++ b.settings.profile.display ++ "\""

/-- Ask the browser to quit. -/
def quit (b : Bench κ σ) : Try κ σ RunError (Option Int) :=
  b.browser.quit b.settings.profile b.settings.quitLimit

/-- Whether the browser runs. -/
def isRunning (b : Bench κ σ) : Act κ σ Bool := b.browser.isRunning b.settings.profile

/-- Ask an instance that runs already to quit.  That it is gone by then is no failure. -/
def quitStale (b : Bench κ σ) : Try κ σ RunError Unit := do
  if ← Try.lift b.isRunning then
    Try.log .warn .bench
      (b.browser.family.name ++ " already running in profile " ++ b.profileText ++
        ", shutting it down")
    match ← Try.attempt b.quit with
    | .ok status =>
      Try.log .info .bench ("Stale instance exited with status " ++ exitCodeText status)
    | .error (.targetNotFound _) => pure ()
    | .error e => Try.fail e

/-- Erase the profile.  That it cannot be erased is only noted. -/
def eraseProfile (b : Bench κ σ) : Act κ σ Unit := do
  match ← (b.files.removeDirectory b.settings.profile).result with
  | .ok () => Act.log .debug .bench ("Erased profile dir " ++ b.profileText)
  | .error (.os .noEntry) => pure ()
  | .error e =>
    Act.log .warn .bench ("Failed to erase profile dir " ++ b.profileText ++ ": " ++ e.message)

/-- Make the profile. -/
def createProfile (b : Bench κ σ) : Try κ (World σ) RunError Unit := do
  Try.log .info .bench ("Initializing profile dir " ++ b.profileText)
  let command (extra : List RawText) : Command :=
    ⟨b.settings.exe, b.browser.launchArguments b.settings.profile extra⟩
  match b.browser.profileCreation b.settings.profile with
  | .launchAndQuit extra =>
    trying (b.launcher.launch (command extra))
    Try.lift (note fun s => { s with launched := true })
    trying (b.settings.patience.await b.isRunning b.interrupted b.sleep)
    let _ ← trying b.quit
    Try.lift (note fun s => { s with launched := false })
  | .runToEnd extra =>
    let status ← trying (b.launcher.run (command extra))
    Try.log .debug .bench ("Profile creation exited with " ++ exitCodeText status)

/-- Give up a temporary directory that nobody asks for any more. -/
def discardTemporary (b : Bench κ σ) (directory : Option Path) : Act κ σ Unit :=
  match directory with
  | some path => do
    let _ ← (b.files.removeDirectory path).result
    pure ()
  | none => pure ()

/-- Make the directory that traces are written to. -/
def makeTemporary (b : Bench κ σ) : Try κ (World σ) RunError Unit := do
  let path ← tryingIo (b.files.makeTemporary "launchbench-")
  Try.log .info .bench ("Created temporary directory \"" ++ path.display ++ "\"")
  let before ← Try.lift (stateOf State.temporary)
  Try.lift (note fun s => { s with temporary := some path })
  Try.lift (asking (b.discardTemporary before))

/-- Override the preload setting. -/
def overridePreload (b : Bench κ σ) : Try κ (World σ) RunError Unit := do
  let before ← trying b.browser.preload.load
  Try.log .debug .bench ("Saved preload state " ++ before.text)
  Try.lift (note fun s => { s with savedPreload := some before })
  trying (b.browser.preload.store b.settings.preload)

/-- Prepare for the run. -/
def setUp (b : Bench κ σ) : Try κ (World σ) RunError Unit := do
  trying b.quitStale
  if b.settings.initializeProfile then Try.lift (asking b.eraseProfile)
  if !(← Try.lift (asking (b.files.isDirectory b.settings.profile))) then b.createProfile
  b.overridePreload
  b.makeTemporary

/-! ## One iteration -/

/-- Remove the prefetch files of the browser, if that was asked for. -/
def purgePrefetch (b : Bench κ σ) : Try κ σ RunError Unit := do
  if let some directory := b.settings.prefetchPurge then
    let _ ← Try.mapError RunError.io (Prefetch.purge b.files directory b.graphName)

/-- Start the trace of an iteration. -/
def prepare (b : Bench κ σ) : Try κ (World σ) RunError Unit := do
  match ← Try.lift (stateOf State.temporary) with
  | none => Try.fail (.io (.other "artifacts directory missing"))
  | some directory =>
    let files ← trying (b.tracer.start directory)
    Try.lift (note fun s => { s with tracing := true, kernelFile := files.map (·.kernel) })
    trying b.purgePrefetch

/-- The command that launches the browser. -/
def launchCommand (b : Bench κ σ) : Except RunError Command :=
  let arguments := b.browser.launchArguments b.settings.profile []
  match b.settings.coldStart with
  | some cold => cold.command b.settings.exe arguments
  | none => .ok ⟨b.settings.exe, arguments⟩

/-- Launch the browser. -/
def launch (b : Bench κ σ) : Try κ (World σ) RunError Unit := do
  let command ← Try.ofExcept b.launchCommand
  trying (b.launcher.launch command)
  Try.lift (note fun s => { s with launched := true })

/-- Let the browser work. -/
def work (b : Bench κ σ) : Try κ σ RunError Unit := do
  Try.log .debug .bench ("Settling for " ++ b.settings.settle.text)
  if ← Try.lift (b.settle b.settings.settle) then Try.fail .interrupted

/-- Ask the launched browser to quit. -/
def shutDown (b : Bench κ σ) : Try κ (World σ) RunError Unit := do
  Try.log .info .bench ("Shutting down profile " ++ b.profileText)
  let _ ← trying b.quit
  Try.lift (note fun s => { s with launched := false })

/-- Record metrics in the ledger, up to the first that conflicts with what is recorded. -/
def record (b : Bench κ σ) : List Metric → Try κ (World σ) RunError Unit
  | [] => pure ()
  | m :: rest => do
    Try.within (fun w => w.state.ledger)
      (fun l w => { w with state := { w.state with ledger := l } })
      (Ledger.add ⟨b.graphName, m.name⟩ m.value m.units)
    record b rest

/-- Analyze the trace of the iteration, if it has one. -/
def analyze (b : Bench κ σ) : Try κ (World σ) RunError Unit := do
  let kernelFile ← Try.lift (stateOf State.kernelFile)
  Try.lift (note fun s => { s with kernelFile := none })
  match kernelFile with
  | none => pure ()
  | some file =>
    let metrics ← trying (b.analyzer.analyze file b.settings.exe)
    b.record metrics

/-- Stop the trace and analyze it. -/
def conclude (b : Bench κ σ) : Try κ (World σ) RunError Unit := do
  Try.lift (note fun s => { s with tracing := false })
  trying b.tracer.stop
  b.analyze
  trying b.purgePrefetch

/-! ## Results and the end -/

/-- Write lines. -/
def writeLines (b : Bench κ σ) : List String → Try κ σ IoError Unit
  | [] => pure ()
  | line :: rest => do
    b.output.write (line ++ "\n")
    writeLines b rest

/-- Write the result lines. -/
def processResults (b : Bench κ σ) : Try κ (World σ) RunError Unit := do
  let ledger ← Try.lift (stateOf State.ledger)
  tryingIo (b.writeLines ledger.resultLines)
  tryingIo b.output.flush

/-- Stop a trace that is still being captured. -/
def stopTrace (b : Bench κ σ) : Act κ (World σ) Unit := do
  if ← stateOf State.tracing then
    note fun s => { s with tracing := false }
    if let .error e ← asking b.tracer.stop.result then Act.log .warn .bench e.message

/-- Ask a launched browser that still runs to quit. -/
def quitLaunched (b : Bench κ σ) : Act κ (World σ) Unit := do
  if ← stateOf State.launched then
    if ← asking b.isRunning then
      Act.log .warn .bench "Application still running, shutting it down"
      if let .error e ← asking b.quit.result then
        Act.log .warn .bench ("Failed to shut down application: " ++ e.message)
  note fun s => { s with launched := false }

/-- Write back a preload setting that was overridden. -/
def restorePreload (b : Bench κ σ) : Act κ (World σ) Unit := do
  let saved ← stateOf State.savedPreload
  note fun s => { s with savedPreload := none }
  if let some before := saved then
    match ← asking (b.browser.preload.store before).result with
    | .ok () => Act.log .debug .bench ("Restored preload state " ++ before.text)
    | .error e =>
      Act.log .error .bench ("Failed to restore preload state " ++ before.text ++ ": " ++ e.message)

/-- Give up the temporary directory: remove it, or keep it if that was asked for. -/
def leaveTemporary (b : Bench κ σ) : Act κ (World σ) Unit := do
  let temporary ← stateOf State.temporary
  note fun s => { s with temporary := none }
  if let some path := temporary then
    if b.settings.keepTemporary then
      Act.log .info .bench ("Keeping temporary directory \"" ++ path.display ++ "\"")
    else
      Act.log .info .bench ("Deleting temporary directory \"" ++ path.display ++ "\"")
      if let .error e ← asking (b.files.removeDirectory path).result then
        Act.log .warn .bench
          ("Failed to delete temporary directory: " ++ (e.about path).message)

/-- Give back everything that was acquired, as far as that is possible. -/
def tearDown (b : Bench κ σ) : Act κ (World σ) Unit := do
  b.stopTrace
  b.quitLaunched
  b.restorePreload
  b.leaveTemporary

/-- Let go of the benchmark: a temporary directory that was not given up is removed. -/
def drop (b : Bench κ σ) : Act κ (World σ) Unit := do
  let temporary ← stateOf State.temporary
  note fun s => { s with temporary := none }
  asking (b.discardTemporary temporary)

/-- The benchmark as the subject of a run. -/
def subject (b : Bench κ σ) : Subject κ (World σ) where
  setUp := b.setUp
  prepare _ := b.prepare
  launch := b.launch
  isRunning := asking b.isRunning
  work _ := trying b.work
  shutDown := b.shutDown
  conclude _ := b.conclude
  processResults := b.processResults
  tearDown := b.tearDown

/-- The run of a benchmark. -/
def runner (b : Bench κ σ) (iterations : Nat) (patience : Patience) : Runner κ (World σ) where
  subject := b.subject
  iterations := iterations
  patience := patience
  interrupted := asking b.interrupted
  sleep time := asking (b.sleep time)

end Bench

end StartupBench
