import StartupBench.CommandLine.Reader
import StartupBench.Config

/-!
# Options

The options are what a command line says, with defaults for what it does not say.  A configuration
is made of them once it is known that the executable is there: seconds become durations, and paths
that were not given are derived from the place of the program and from the environment.
-/

namespace StartupBench

open CommandLine

/-- What a command line says. -/
structure Options where
  exe : Path
  profile : Path
  iterations : Nat
  preload : Bool
  preloadSize : Option Nat
  preloadStride : Option Nat
  coldStart : Bool
  noPrefetch : Bool
  keepTemporary : Bool
  noInitializeProfile : Bool
  settleSeconds : Float
  quitLimitSeconds : Option Float
  launchAttempts : Nat
  toolsDirectory : Option Path
  prefetchDirectory : Option Path
  snapshotDrive : String
  analyzer : Option Path
  traceControl : Option Path
  noTrace : Bool
  json : Option Path
  noColor : Bool
  verbose : Bool

namespace CommandLine.Reading

/-- The answer of an argument that says yes or no. -/
def yes (r : Reading) (a : Argument) : Bool :=
  match r.value? a with
  | some (.yes b) => b
  | _ => false

/-- The number of an argument. -/
def count? (r : Reading) (a : Argument) : Option Nat :=
  match r.value? a with
  | some (.count n) => some n
  | _ => none

/-- The seconds of an argument. -/
def seconds? (r : Reading) (a : Argument) : Option Float :=
  match r.value? a with
  | some (.seconds x) => some x
  | _ => none

/-- The path of an argument. -/
def path? (r : Reading) (a : Argument) : Option Path :=
  match r.value? a with
  | some (.path p) => some p
  | _ => none

/-- The text of an argument. -/
def text? (r : Reading) (a : Argument) : Option String :=
  match r.value? a with
  | some (.text s) => some s
  | _ => none

/-- What the arguments say. -/
def options (r : Reading) : Options where
  exe := (r.path? .exe).getD default
  profile := (r.path? .profile).getD default
  iterations := (r.count? .iterations).getD 10
  preload := r.yes .preload
  preloadSize := r.count? .preloadSize
  preloadStride := r.count? .preloadStride
  coldStart := r.yes .coldStart
  noPrefetch := r.yes .noPrefetch
  keepTemporary := r.yes .keepTemporary
  noInitializeProfile := r.yes .noInitializeProfile
  settleSeconds := (r.seconds? .settleSeconds).getD 10.0
  quitLimitSeconds := r.seconds? .quitLimitSeconds
  launchAttempts := (r.count? .launchAttempts).getD 300
  toolsDirectory := r.path? .toolsDirectory
  prefetchDirectory := r.path? .prefetchDirectory
  snapshotDrive := (r.text? .snapshotDrive).getD "M:"
  analyzer := r.path? .analyzer
  traceControl := r.path? .traceControl
  noTrace := r.yes .noTrace
  json := r.path? .json
  noColor := r.yes .noColor
  verbose := r.yes .verbose

end CommandLine.Reading

namespace Options

/-- The options of a command line. -/
def read (env : Environment) (words : List RawText) : Except UsageError Options :=
  (CommandLine.read env words).map Reading.options

/-! ## Configurations -/

/-- Why options are no configuration. -/
inductive Refusal where
  | noExecutable (exe : Path)
  | noDrive (exe : Path)
  | badSeconds (flag : String) (value : Float) (cause : Duration.ReadError)
  /-- The program does not know where it is itself. -/
  | unlocated (cause : IoError)

/-- The refusal in words, without its cause. -/
def Refusal.message : Refusal → String
  | noExecutable exe => "Executable does not exist: " ++ exe.display
  | noDrive exe => "--cold-start needs a drive-qualified executable path: " ++ exe.display
  | badSeconds flag value _ => "Invalid " ++ flag ++ ": " ++ Decimal.plain value
  | unlocated _ => "Failed to locate the running executable"

/-- The causes behind a refusal. -/
def Refusal.causes : Refusal → List String
  | badSeconds _ _ cause => [cause.message]
  | unlocated cause => [cause.message]
  | _ => []

instance : Coe Path (Except IoError Path) := ⟨Except.ok⟩

/-- What options are completed with. -/
structure Surroundings where
  /-- The directory of the program, or why it cannot be found out. -/
  programDirectory : Except IoError Path
  env : Environment := []
  /-- Whether the output is a terminal. -/
  terminal : Bool := false
  host : Host := {}

/-- Seconds given for a flag, as a duration. -/
def seconds (flag : String) (value : Float) : Except Refusal Duration :=
  match Duration.ofFloat value with
  | .ok d => .ok d
  | .error cause => .error (.badSeconds flag value cause)

/-- Whether a path begins with a drive. -/
def hasDrive (p : Path) : Bool := (p.toString?.bind splitDrive?).isSome

/-- The directory of the prefetch files of the system. -/
def systemPrefetch (env : Environment) : Path :=
  let windows : RawText := (env.get? "WINDIR").getD "C:\\Windows"
  (⟨windows⟩ : Path).join "Prefetch"

/-- The directory of the programs that help: the one that was given, or that of this program. -/
def tools (o : Options) (s : Surroundings) : Except Refusal Path :=
  match o.toolsDirectory with
  | some directory => .ok directory
  | none => s.programDirectory.mapError Refusal.unlocated

/-- The configuration of options; `isFile` says whether the executable is there. -/
def config (o : Options) (s : Surroundings) (isFile : Bool) : Except Refusal Config := do
  if !isFile then .error (.noExecutable o.exe)
  if o.coldStart && !hasDrive o.exe then .error (.noDrive o.exe)
  let settle ← seconds "--settle-secs" o.settleSeconds
  let quitLimit ←
    match o.quitLimitSeconds with
    | some x => (seconds "--shutdown-timeout-secs" x).map some
    | none => pure none
  let tools ← o.tools s
  pure
    { exe := o.exe
      profile := o.profile
      iterations := o.iterations
      preload :=
        { enabled := o.preload
          size := o.preloadSize.map Nat.toUInt32
          stride := o.preloadStride.map Nat.toUInt32 }
      coldStart := o.coldStart
      prefetch := !o.noPrefetch
      keepTemporary := o.keepTemporary
      initializeProfile := !o.noInitializeProfile
      settle
      quitLimit
      launchAttempts := o.launchAttempts
      toolsDirectory := tools
      prefetchDirectory := o.prefetchDirectory.getD (systemPrefetch s.env)
      snapshotDrive := o.snapshotDrive
      analyzer := o.analyzer
      traceControl :=
        if o.noTrace then none else some (o.traceControl.getD (tools.join "call_trace_control"))
      json := o.json
      color := !o.noColor && (s.env.get? "NO_COLOR").isNone && s.terminal
      verbose := o.verbose
      host := s.host }

end Options

end StartupBench
