import StartupBench.Bench.Basic
import StartupBench.Desktop.Observed
import StartupBench.Desktop.Simulated

/-!
# The plan of a rehearsal

A rehearsal takes a benchmark through its run without a browser.  Every collaborator follows a plan:
which call fails and how, when the browser appears and whether it obeys, what the analyzer finds.
The plan is fixed before the rehearsal; what happens on stage is the world of
`StartupBench.Rehearsal.World`.
-/

namespace StartupBench.Rehearsal

/-- An instance of the browser that comes to run. -/
structure Arrival where
  obedience : Obedience := .onQuit
  exitCode : Int := 0
  /-- The class of its first window; none for the one that the benchmark looks for. -/
  windowClass : Option String := none
  /-- The title of its first window; none for the one that the benchmark looks for. -/
  title : Option String := none
  /-- How many more windows it has. -/
  extraWindows : Nat := 0
  denyOpen : Bool := false

/-- What happens on a call of the launcher. -/
structure LaunchPlan where
  /-- The call fails. -/
  error : Option RunError := none
  /-- The profile directory is made. -/
  createProfile : Bool := false
  /-- Prefetch files that are made. -/
  prefetch : List String := []
  /-- Whether an instance comes to run. -/
  starts : Bool := true
  arrival : Arrival := {}
  /-- How often it is looked for in vain at first. -/
  appearAfter : Nat := 0
  /-- The exit code, where the end is waited for. -/
  exitCode : Option Int := none

/-- What happens while the browser settles. -/
inductive SettlePlan where
  | quiet
  | interrupted
  /-- A process exits by itself. -/
  | exits (pid : ProcessId)

/-- How the tracer behaves. -/
structure TracePlan where
  /-- The errors of the calls that start a trace, in order. -/
  startErrors : List (Option RunError) := []
  /-- The errors of the calls that stop a trace, in order. -/
  stopErrors : List (Option RunError) := []
  /-- Whether a trace has files. -/
  hasFiles : Bool := true
  /-- Whether a call that stops a trace removes all temporary files. -/
  clearsTemporary : Bool := false

/-- Which writes fail. -/
inductive OutputTrouble where
  | write
  | flush
  deriving DecidableEq

/-- The plan of a rehearsal. -/
structure Plan where
  settings : Settings
  /-- Whether the preload setting is the one that the system offers, and not kept in memory. -/
  systemPreload : Bool := false
  /-- The errors of the calls that load the preload setting, in order. -/
  loadErrors : List (Option RunError) := []
  /-- The errors of the calls that store it, in order. -/
  storeErrors : List (Option RunError) := []
  /-- How often an instance is found in all; none for no limit. -/
  vanishAfter : Option Nat := none
  /-- The calls of the launcher, in order. -/
  launches : List LaunchPlan := []
  /-- The tracer; none for one that records nothing. -/
  trace : Option TracePlan := none
  /-- What the analyzer finds, call by call; none for one that finds nothing. -/
  analyses : Option (List (Except RunError (List Metric))) := none
  /-- How the browser settles, time by time; none for waiting on the clock. -/
  settles : Option (List SettlePlan) := none
  outputTrouble : Option OutputTrouble := none
  /-- The answers to whether the user wants to stop; none to look at the flag. -/
  interrupts : Option (Array Bool) := none
  iterations : Nat := 0
  /-- Where temporary files are made. -/
  temporary : Path
  /-- Where prefetch files are made. -/
  prefetchDirectory : Path

/-- What stands at the place of the profile. -/
inductive ProfileState where
  | absent
  | file
  /-- A directory with a file of preferences in it. -/
  | directory
  deriving DecidableEq

/-- What is there when a rehearsal begins. -/
structure Scenery where
  profile : ProfileState := .absent
  prefetch : List String := []
  /-- Instances that run already. -/
  present : List (ProcessId × Arrival) := []

end StartupBench.Rehearsal
