import StartupBench.ColdStart
import StartupBench.Preload
import StartupBench.Runner.Patience

/-!
# Configuration

`Config` is what the user asked for, with every default filled in.  `Settings` is the part of it
that the benchmark itself needs; it is made from a configuration once the helper for cold starts is
known to fit the system.
-/

namespace StartupBench

/-- What the user asked for. -/
structure Config where
  exe : Path
  profile : Path
  iterations : Nat := 10
  preload : PreloadState := .disabled
  coldStart : Bool := false
  /-- Leave the prefetch files alone. -/
  prefetch : Bool := true
  keepTemporary : Bool := false
  initializeProfile : Bool := true
  /-- How long the browser runs before it is asked to quit. -/
  settle : Duration := .ofSeconds 10
  /-- How long to wait for a browser that was asked to quit; none for as long as it takes. -/
  quitLimit : Option Duration := none
  launchAttempts : Nat := 300
  toolsDirectory : Path := "."
  prefetchDirectory : Path := "C:\\Windows\\Prefetch"
  snapshotDrive : String := "M:"
  analyzer : Option Path := none
  /-- The program that controls traces; none to run without. -/
  traceControl : Option Path := none
  /-- Where the report is written. -/
  json : Option Path := none
  color : Bool := true
  verbose : Bool := false
  host : Host := {}
  deriving DecidableEq, Repr

/-- The name of the executable in messages. -/
def Config.exeName (c : Config) : String :=
  match c.exe.fileName? with
  | some name => name.display
  | none => c.exe.display

/-- What a benchmark does. -/
structure Settings where
  exe : Path
  profile : Path
  preload : PreloadState := .disabled
  coldStart : Option ColdStart := none
  /-- The directory from which prefetch files are removed; none to leave them alone. -/
  prefetchPurge : Option Path := none
  keepTemporary : Bool := false
  /-- Erase the profile and make it anew. -/
  initializeProfile : Bool := true
  settle : Duration := .ofSeconds 10
  quitLimit : Option Duration := none
  /-- How long to wait for the browser that is launched to make a profile. -/
  patience : Patience := {}
  deriving DecidableEq, Repr

/-- The settings of a configuration.  A cold start fails on a system without a helper for it. -/
def Settings.ofConfig (c : Config) : Except RunError Settings := do
  let coldStart ←
    if c.coldStart then
      (ColdStart.forHost c.host c.toolsDirectory c.snapshotDrive).map some
    else pure none
  pure
    { exe := c.exe
      profile := c.profile
      preload := c.preload
      coldStart
      prefetchPurge := if c.prefetch then none else some c.prefetchDirectory
      keepTemporary := c.keepTemporary
      initializeProfile := c.initializeProfile
      settle := c.settle
      quitLimit := c.quitLimit
      patience := { attempts := c.launchAttempts } }

end StartupBench
