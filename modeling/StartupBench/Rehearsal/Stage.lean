import StartupBench.History
import StartupBench.Interrupt
import StartupBench.Rehearsal.Plan

/-!
# The stage of a rehearsal

The world in which a rehearsal plays, and the collaborators that follow the plan on it.  Each counts
its calls to know which entry of the plan comes next, and calls that matter are noted as events
before they do anything, so that a failing call is noted too.
-/

namespace StartupBench.Rehearsal

/-- Something that happened on stage. -/
inductive Event where
  | desktop (call : DesktopCall)
  | launch (command : Command)
  | run (command : Command)
  | traceStart (directory : Path) (isThere : Bool)
  | traceStop
  | analyze (kernelFile exe : Path)
  | settle (time : Duration)
  | preloadLoad
  | preloadStore (state : PreloadState)
  deriving DecidableEq, Repr

/-- How often each collaborator was called. -/
structure Counts where
  loads : Nat := 0
  stores : Nat := 0
  launches : Nat := 0
  starts : Nat := 0
  stops : Nat := 0
  analyses : Nat := 0
  settles : Nat := 0
  interrupts : Nat := 0

/-- The stage. -/
structure World where
  desktop : Simulated := {}
  troubles : List Trouble := []
  /-- How often an instance was found. -/
  found : Nat := 0
  /-- How often it will still be looked for in vain. -/
  hidden : Nat := 0
  preload : PreloadState := .disabled
  nextPid : ProcessId := ⟨1000⟩
  files : Files := {}
  output : String := ""
  clock : Instant := .ofSeconds 1
  /-- The interrupt flag. -/
  raised : Bool := false
  counts : Counts := {}
  events : History Event := {}

variable {κ : Type}

/-- Note an event. -/
def note (e : Event) : Act κ World Unit := Act.update fun w => { w with events := w.events.push e }

/-- Count a call and answer how many there were before. -/
def tick (get : Counts → Nat) (set : Nat → Counts → Counts) : Act κ World Nat :=
  Act.step fun w => (get w.counts, { w with counts := set (get w.counts + 1) w.counts })

/-- Fail if the plan says so. -/
def failing {ε : Type} : Option ε → Try κ World ε Unit
  | some e => Try.fail e
  | none => pure ()

/-- The error of call `n`. -/
def errorOf (errors : List (Option RunError)) (n : Nat) : Option RunError := (errors[n]?).join

/-! ## The desktop -/

/-- Whether an instance that is there is found this time. -/
def sighted (p : Plan) (window : Option WindowId) (w : World) : Option WindowId × World :=
  if 0 < w.hidden then (none, { w with hidden := w.hidden - 1 })
  else if window.isNone then (none, w)
  else if p.vanishAfter.any (· ≤ w.found) then (none, w)
  else (window, { w with found := w.found + 1 })

/-- The desktop of a rehearsal. -/
def Plan.desktop (p : Plan) : Desktop κ World :=
  let simulated : Desktop κ World :=
    (Simulated.desktop κ).within World.desktop fun s w => { w with desktop := s }
  let fickle : Desktop κ World :=
    { simulated with
      findWindow := fun pattern => do
        let window ← simulated.findWindow pattern
        Act.step (sighted p window) }
  (fickle.troubled World.troubles).observed fun call => note (.desktop call)

/-! ## The browser -/

/-- The preload setting kept in memory. -/
def Plan.memoryPreload (p : Plan) : PreloadStore κ World where
  load := do
    Try.lift (note .preloadLoad)
    let n ← Try.lift (tick Counts.loads fun n c => { c with loads := n })
    failing (errorOf p.loadErrors n)
    pure (← Try.world).preload
  store s := do
    Try.lift (note (.preloadStore s))
    let n ← Try.lift (tick Counts.stores fun n c => { c with stores := n })
    failing (errorOf p.storeErrors n)
    Try.update fun w => { w with preload := s }

/-- The browser of a rehearsal. -/
def Plan.browser (p : Plan) : Browser κ World :=
  let exe := p.settings.exe
  if p.systemPreload || Family.ofExecutable exe = .mozilla then
    Browser.ofExecutable exe p.desktop
  else Browser.chromium exe p.desktop p.memoryPreload

/-- So many untitled windows. -/
def addWindows (s : Simulated) (pid : ProcessId) (windowClass : String) : Nat → Simulated
  | 0 => s
  | n + 1 => addWindows (s.addWindow pid ⟨pid.number⟩ windowClass none).2 pid windowClass n

/-- The name that a rule is about. -/
def className : ClassRule → String
  | .exactly name => name
  | .startingWith stem => stem

/-- An instance comes to run: a process with a window that the benchmark looks for and further
windows that it asks to quit, all on one thread. -/
def arrive (target : QuitTarget) (pid : ProcessId) (a : Arrival) (s : Simulated) : Simulated :=
  let pattern := target.instancePattern
  let title := match a.title with
    | some title => some title
    | none => pattern.title
  let s := s.addProcess pid a.exitCode a.obedience
  let (_, s) := s.addWindow pid ⟨pid.number⟩ (a.windowClass.getD pattern.windowClass) title
  let s := addWindows s pid (className target.recipients) a.extraWindows
  if a.denyOpen then s.denyOpen pid else s

/-- How the browser of a plan is asked to quit. -/
def Plan.quitTarget (p : Plan) : QuitTarget :=
  (p.browser (κ := Empty)).quitTarget p.settings.profile

/-- The stage with what is there at the beginning. -/
def Plan.furnish (p : Plan) (s : Scenery) (w : World) : World :=
  let profile := p.settings.profile
  let files := s.prefetch.foldl (fun files (name : String) =>
    files.writeIfPossible (p.prefetchDirectory.join (name : Path)) [])
    (w.files.makeDirectories p.prefetchDirectory)
  { w with
    files := match s.profile with
      | .absent => files
      | .file => files.place profile [] false
      | .directory =>
        (files.makeDirectories profile).writeIfPossible (profile.join "Preferences")
          (Utf8.encode "\x7b\x7d")
    desktop := s.present.foldl (fun desktop a => arrive p.quitTarget a.1 a.2 desktop) w.desktop }

/-! ## The other collaborators -/

/-- A call of the launcher up to the point where it succeeds. -/
def Plan.launchCall (p : Plan) (e : Event) : Try κ World RunError LaunchPlan := do
  Try.lift (note e)
  let n ← Try.lift (tick Counts.launches fun n c => { c with launches := n })
  let plan := (p.launches[n]?).getD {}
  failing plan.error
  if plan.createProfile then
    Try.update fun w => { w with files := w.files.makeDirectories p.settings.profile }
  Try.update fun w =>
    { w with
      files := plan.prefetch.foldl (fun files (name : String) =>
        files.writeIfPossible (p.prefetchDirectory.join (name : Path)) []) w.files }
  pure plan

/-- The launcher of a rehearsal. -/
def Plan.launcher (p : Plan) : Launcher κ World where
  launch c := do
    let plan ← p.launchCall (.launch c)
    if plan.starts then
      Try.update fun w =>
        { w with
          desktop := arrive p.quitTarget w.nextPid plan.arrival w.desktop
          nextPid := ⟨w.nextPid.number + 1⟩
          hidden := plan.appearAfter }
  run c := do
    let plan ← p.launchCall (.run c)
    pure plan.exitCode

/-- The tracer of a rehearsal. -/
def Plan.tracer (p : Plan) : Tracer κ World :=
  match p.trace with
  | none => Tracer.none
  | some t =>
    { start := fun directory => do
        let w ← Try.world
        Try.lift (note (.traceStart directory (w.files.isDirectory directory)))
        let n ← Try.lift (tick Counts.starts fun n c => { c with starts := n })
        failing (errorOf t.startErrors n)
        pure (if t.hasFiles then some (TraceFiles.inDirectory directory) else none)
      stop := do
        Try.lift (note .traceStop)
        let n ← Try.lift (tick Counts.stops fun n c => { c with stops := n })
        if t.clearsTemporary then
          Try.update fun w =>
            match w.files.find p.temporary with
            | .ok place => { w with files := w.files.emptyAt place.location }
            | .error _ => w
        failing (errorOf t.stopErrors n) }

/-- The analyzer of a rehearsal. -/
def Plan.analyzer (p : Plan) : Analyzer κ World :=
  match p.analyses with
  | none => Analyzer.none
  | some analyses =>
    { analyze := fun kernelFile exe => do
        Try.lift (note (.analyze kernelFile exe))
        let n ← Try.lift (tick Counts.analyses fun n c => { c with analyses := n })
        Try.ofExcept ((analyses[n]?).getD (.ok [])) }

/-- The clock and the interrupt flag of a rehearsal.  Nothing raises the flag while it is waited
for, so that a wait takes as long as it may. -/
def alarm : Alarm κ World where
  raised := Act.reading World.raised
  now := Act.reading World.clock
  waitUntil deadline := do
    Act.update fun w => { w with clock := deadline }
    Act.reading World.raised

/-- How the browser settles in a rehearsal. -/
def Plan.settle (p : Plan) (time : Duration) : Act κ World Bool :=
  match p.settles with
  | none => alarm.waitFor time
  | some settles => do
    note (.settle time)
    let n ← tick Counts.settles fun n c => { c with settles := n }
    match (settles[n]?).getD .quiet with
    | .quiet => pure false
    | .interrupted => pure true
    | .exits pid => do
      Act.update fun w => { w with desktop := w.desktop.exitProcess pid }
      pure false

/-- Where a rehearsal writes its result lines. -/
def Plan.output (p : Plan) : Sink κ World where
  write text :=
    if p.outputTrouble = some .write then Try.fail (.other "disk full")
    else Try.update fun w => { w with output := w.output ++ text }
  flush :=
    if p.outputTrouble = some .flush then Try.fail (.other "pipe closed") else pure ()

/-- Whether the user wants to stop. -/
def Plan.interrupted (p : Plan) : Act κ World Bool :=
  match p.interrupts with
  | none => Act.reading World.raised
  | some answers => do
    let n ← tick Counts.interrupts fun n c => { c with interrupts := n }
    pure ((answers[n]?).getD false)

/-- Pause. -/
def sleep (time : Duration) : Act κ World Unit :=
  Act.update fun w => { w with clock := .ofNanos (w.clock.toNanos + time.toNanos) }

/-! ## The whole -/

/-- The benchmark of a rehearsal. -/
def Plan.bench (p : Plan) : Bench κ World where
  settings := p.settings
  browser := p.browser
  launcher := p.launcher
  tracer := p.tracer
  analyzer := p.analyzer
  files := (Files.fileSystem κ p.temporary).within World.files fun f w => { w with files := f }
  output := p.output
  settle := p.settle
  interrupted := Act.reading World.raised
  sleep := sleep

/-- The run of a rehearsal. -/
def Plan.runner (p : Plan) : Runner κ (Bench.World World) where
  subject := p.bench.subject
  iterations := p.iterations
  patience := p.settings.patience
  interrupted := Bench.asking p.interrupted
  sleep time := Bench.asking (sleep time)

end StartupBench.Rehearsal
