import StartupBench.Bench.Basic
import StartupBench.Proofs.Quit.Tracked
import StartupBench.Proofs.Runner.Recorded

/-!
# A walk along the benchmark

`Bench.Tracks π S K b' b` says of two benchmarks that they are the same but for the worlds of their
collaborators, and that the collaborators of `b'` in the parts `K` track those of `b`
(`Act.Tracks`).  Then every piece of `b'` that asks only these parts tracks the same piece of `b`:
it does the same, it relates the worlds around the state by `S`, and it leaves those parts of the
state alone that it does not write (`Bench.Frame`).

There is one lemma for each piece, named after it: `Bench.Tracks.quitStale_tracks`,
`Bench.Tracks.setUp_tracks`, `Bench.Tracks.tearDown_tracks` and so on.  Its premises name the
collaborators that the piece asks and the fields of the state that it writes.  This walk is the only
one along the code of the benchmark that is made for its own sake; a benchmark with the notes of a
watch (`Bench.watched`) is an instance of `Bench.Tracks`, and so is a benchmark that tracks
itself.
-/

namespace StartupBench.Bench

variable {κ σ τ α : Type}

/-! ## Frames -/

/-- Apply `π` to the world around the state of a benchmark; the state is kept. -/
def World.map (π : τ → σ) (w : World τ) : World σ := ⟨w.state, π w.outside⟩

/-- What `f` reads of the state is left alone, and the worlds around it stand in `S`. -/
def Frame {γ : Type} (f : State → γ) (S : τ → τ → Prop) (w w₁ : World τ) : Prop :=
  f w₁.state = f w.state ∧ S w.outside w₁.outside

instance {γ : Type} (f : State → γ) (S : τ → τ → Prop) [IsPreorder τ S] :
    IsPreorder (World τ) (Frame f S) where
  refl w := ⟨rfl, Std.Refl.refl w.outside⟩
  trans _ _ _ h h₁ := ⟨h₁.1.trans h.1, IsTrans.trans _ _ _ h.2 h₁.2⟩

section Rules

variable {γ : Type} {f : State → γ} {π : τ → σ} {S : τ → τ → Prop}

lemma asking_tracks {x' : Act κ τ α} {x : Act κ σ α} (h : x'.Tracks π S x) :
    (asking x').Tracks (World.map π) (Frame f S) (asking x) := by
  refine ⟨fun w => ?_, fun w => ⟨rfl, h.respects w.outside⟩⟩
  unfold asking Act.within World.map
  dsimp only
  rw [h.toOver w.outside]

lemma trying_tracks {ε : Type} {x' : Try κ τ ε α} {x : Try κ σ ε α}
    (h : Try.Tracks π S x' x) :
    Try.Tracks (World.map π) (Frame f S) (trying x') (trying x) := asking_tracks h

variable [IsPreorder τ S]

lemma tryingIo_tracks {x' : Try κ τ IoError α} {x : Try κ σ IoError α}
    (h : Try.Tracks π S x' x) :
    Try.Tracks (World.map π) (Frame f S) (tryingIo x') (tryingIo x) :=
  (trying_tracks h).mapError

lemma note_tracks {g : State → State} (h : ∀ s, f (g s) = f s) :
    (note g : Act κ (World τ) Unit).Tracks (World.map π) (Frame f S) (note g) :=
  Act.Tracks.update (fun _ => rfl) fun w => ⟨h w.state, Std.Refl.refl w.outside⟩

lemma stateOf_tracks (g : State → α) :
    (stateOf g : Act κ (World τ) α).Tracks (World.map π) (Frame f S) (stateOf g) :=
  Act.Tracks.reading fun _ => rfl

end Rules

/-! ## Collaborators -/

/-- The parts of a benchmark that are asked to do something.  A lemma about a piece names the parts
it asks. -/
inductive Part where
  | desktop
  | preload
  | launcher
  | tracer
  | analyzer
  /-- Directories are looked for, made and removed. -/
  | directories
  /-- Prefetch files are looked for and removed. -/
  | prefetch
  | output
  /-- Time passes, or the user is asked whether to stop. -/
  | waiting
  deriving DecidableEq, Repr

/-- The benchmarks are the same but for the worlds of their collaborators, and the collaborators of
`b'` in the parts `K` track those of `b` (`Act.Tracks`, `Try.Tracks`). -/
structure Tracks (π : τ → σ) (S : τ → τ → Prop) (K : Part → Prop) (b' : Bench κ τ)
    (b : Bench κ σ) : Prop where
  settings : b'.settings = b.settings
  family : b'.browser.family = b.browser.family
  exe : b'.browser.exe = b.browser.exe
  desktop : K .desktop → b'.browser.desktop.Tracks π S b.browser.desktop
  loadPreload : K .preload → Try.Tracks π S b'.browser.preload.load b.browser.preload.load
  storePreload : K .preload → ∀ v,
    Try.Tracks π S (b'.browser.preload.store v) (b.browser.preload.store v)
  launchCommand : K .launcher → ∀ c,
    Try.Tracks π S (b'.launcher.launch c) (b.launcher.launch c)
  runCommand : K .launcher → ∀ c, Try.Tracks π S (b'.launcher.run c) (b.launcher.run c)
  startTrace : K .tracer → ∀ directory,
    Try.Tracks π S (b'.tracer.start directory) (b.tracer.start directory)
  stopTrace : K .tracer → Try.Tracks π S b'.tracer.stop b.tracer.stop
  analyzeTrace : K .analyzer → ∀ file exe,
    Try.Tracks π S (b'.analyzer.analyze file exe) (b.analyzer.analyze file exe)
  isDirectory : K .directories → ∀ path,
    (b'.files.isDirectory path).Tracks π S (b.files.isDirectory path)
  removeDirectory : K .directories → ∀ path,
    Try.Tracks π S (b'.files.removeDirectory path) (b.files.removeDirectory path)
  makeDirectory : K .directories → ∀ stem,
    Try.Tracks π S (b'.files.makeTemporary stem) (b.files.makeTemporary stem)
  listFiles : K .prefetch → ∀ path, Try.Tracks π S (b'.files.list path) (b.files.list path)
  removeFile : K .prefetch → ∀ path,
    Try.Tracks π S (b'.files.removeFile path) (b.files.removeFile path)
  writeOutput : K .output → ∀ text, Try.Tracks π S (b'.output.write text) (b.output.write text)
  flushOutput : K .output → Try.Tracks π S b'.output.flush b.output.flush
  settle : K .waiting → ∀ time, (b'.settle time).Tracks π S (b.settle time)
  interrupted : K .waiting → b'.interrupted.Tracks π S b.interrupted
  sleep : K .waiting → ∀ time, (b'.sleep time).Tracks π S (b.sleep time)

namespace Tracks

variable {π : τ → σ} {S : τ → τ → Prop} {K : Part → Prop} {b' : Bench κ τ} {b : Bench κ σ}
  (h : b'.Tracks π S K b)
include h

lemma graphName_eq : b'.graphName = b.graphName := by
  unfold graphName
  rw [h.settings]

lemma profileText_eq : b'.profileText = b.profileText := by
  unfold profileText
  rw [h.settings]

lemma quitTarget_eq (profile : Path) :
    b'.browser.quitTarget profile = b.browser.quitTarget profile := by
  unfold Browser.quitTarget
  rw [h.family, h.exe]

lemma launchArguments_eq (profile : Path) (extra : List RawText) :
    b'.browser.launchArguments profile extra = b.browser.launchArguments profile extra := by
  unfold Browser.launchArguments
  rw [h.family]

lemma profileCreation_eq (profile : Path) :
    b'.browser.profileCreation profile = b.browser.profileCreation profile := by
  unfold Browser.profileCreation
  rw [h.family]

lemma launchCommand_eq : b'.launchCommand = b.launchCommand := by
  unfold Bench.launchCommand
  rw [h.settings, h.launchArguments_eq]

variable [IsPreorder τ S]

/-! ## Asking the collaborators -/

lemma quit_tracks (hd : K .desktop) : Try.Tracks π S b'.quit b.quit := by
  unfold Bench.quit Browser.quit
  rw [h.settings, h.quitTarget_eq]
  exact (QuitTarget.quit_tracks (h.desktop hd) _ _).mapError

lemma isRunning_tracks (hd : K .desktop) : b'.isRunning.Tracks π S b.isRunning := by
  unfold Bench.isRunning Browser.isRunning
  rw [h.settings, h.quitTarget_eq]
  exact ((h.desktop hd).looks.findWindow _).bind fun window => Act.Tracks.pure _

lemma quitStale_tracks (hd : K .desktop) : Try.Tracks π S b'.quitStale b.quitStale := by
  unfold quitStale
  rw [h.family, h.profileText_eq]
  refine (Try.Tracks.lift (h.isRunning_tracks hd)).bind fun running => Try.Tracks.ite ?_ ?_
  · refine (Try.Tracks.log _ _ _ _).bind fun _ => ?_
    refine (Try.Tracks.attempt (h.quit_tracks hd)).bind fun out => ?_
    cases out with
    | ok status => exact Try.Tracks.log _ _ _ _
    | error e =>
      cases e with
      | targetNotFound _ => exact Try.Tracks.pure ()
      | _ => exact Try.Tracks.fail _
  · exact Try.Tracks.pure ()

lemma eraseProfile_tracks (hf : K .directories) :
    b'.eraseProfile.Tracks π S b.eraseProfile := by
  unfold eraseProfile
  rw [h.settings, h.profileText_eq]
  refine Act.Tracks.bind (h.removeDirectory hf _).result fun out => ?_
  split
  · exact Act.Tracks.log _ _ _ _
  · exact Act.Tracks.pure ()
  · exact Act.Tracks.log _ _ _ _

lemma discardTemporary_tracks (hf : K .directories) (directory : Option Path) :
    (b'.discardTemporary directory).Tracks π S (b.discardTemporary directory) := by
  unfold discardTemporary
  cases directory with
  | some path => exact (h.removeDirectory hf path).result.bind fun _ => Act.Tracks.pure ()
  | none => exact Act.Tracks.pure ()

lemma purgePrefetch_tracks (hp : K .prefetch) :
    Try.Tracks π S b'.purgePrefetch b.purgePrefetch := by
  have removeAll : ∀ (directory : Path) (names : List RawText),
      Try.Tracks π S (Prefetch.removeAll b'.files directory names)
        (Prefetch.removeAll b.files directory names) := by
    intro directory names
    induction names with
    | nil => exact Try.Tracks.pure ()
    | cons name rest ih => exact (h.removeFile hp _).bind fun _ => ih
  have purge : ∀ directory : Path, Try.Tracks π S
      (Prefetch.purge b'.files directory b.graphName)
      (Prefetch.purge b.files directory b.graphName) := by
    intro directory
    unfold Prefetch.purge
    refine (Try.Tracks.attempt (h.listFiles hp directory)).bind fun listed => ?_
    split
    · exact Try.Tracks.pure 0
    · exact Try.Tracks.fail _
    · refine (Try.Tracks.log _ _ _ _).bind fun _ => ?_
      exact (removeAll directory _).bind fun _ => Try.Tracks.pure _
  unfold purgePrefetch
  rw [h.settings, h.graphName_eq]
  cases b.settings.prefetchPurge with
  | some directory => exact (Try.Tracks.mapError (purge directory)).bind fun _ => Try.Tracks.pure ()
  | none => exact Try.Tracks.pure ()

lemma work_tracks (hw : K .waiting) : Try.Tracks π S b'.work b.work := by
  unfold work
  rw [h.settings]
  refine (Try.Tracks.log _ _ _ _).bind fun _ => ?_
  refine (Try.Tracks.lift (h.settle hw _)).bind fun early => ?_
  exact Try.Tracks.ite (Try.Tracks.fail _) (Try.Tracks.pure ())

lemma writeLines_tracks (ho : K .output) (lines : List String) :
    Try.Tracks π S (b'.writeLines lines) (b.writeLines lines) := by
  induction lines with
  | nil => exact Try.Tracks.pure ()
  | cons line rest ih => exact (h.writeOutput ho _).bind fun _ => ih

/-! ## Setting up -/

variable {γ : Type} {f : State → γ}

lemma createProfile_tracks (hl : K .launcher) (hw : K .waiting) (hd : K .desktop)
    (hf : ∀ s launched, f { s with launched } = f s) :
    Try.Tracks (World.map π) (Frame f S) b'.createProfile b.createProfile := by
  unfold createProfile
  rw [h.settings, h.profileText_eq, h.profileCreation_eq]
  refine (Try.Tracks.log _ _ _ _).bind fun _ => ?_
  cases b.browser.profileCreation b.settings.profile with
  | launchAndQuit extra =>
    dsimp only
    rw [h.launchArguments_eq]
    refine (trying_tracks (h.launchCommand hl _)).bind fun _ => ?_
    refine (Try.Tracks.lift (note_tracks fun s => hf s true)).bind fun _ => ?_
    have awaited := b.settings.patience.await_tracks (h.isRunning_tracks hd) (h.interrupted hw)
      (h.sleep hw)
    refine (trying_tracks awaited).bind fun _ => (trying_tracks (h.quit_tracks hd)).bind fun _ => ?_
    exact Try.Tracks.lift (note_tracks fun s => hf s false)
  | runToEnd extra =>
    dsimp only
    rw [h.launchArguments_eq]
    refine (trying_tracks (h.runCommand hl _)).bind fun status => ?_
    exact Try.Tracks.log _ _ _ _

lemma makeTemporary_tracks (hd : K .directories)
    (hf : ∀ s temporary, f { s with temporary } = f s) :
    Try.Tracks (World.map π) (Frame f S) b'.makeTemporary b.makeTemporary := by
  unfold makeTemporary
  refine (tryingIo_tracks (h.makeDirectory hd _)).bind fun path => ?_
  refine (Try.Tracks.log _ _ _ _).bind fun _ => ?_
  refine (Try.Tracks.lift (stateOf_tracks _)).bind fun before => ?_
  refine (Try.Tracks.lift (note_tracks fun s => hf s _)).bind fun _ => ?_
  exact Try.Tracks.lift (asking_tracks (h.discardTemporary_tracks hd before))

lemma overridePreload_tracks (hp : K .preload)
    (hf : ∀ s savedPreload, f { s with savedPreload } = f s) :
    Try.Tracks (World.map π) (Frame f S) b'.overridePreload b.overridePreload := by
  unfold overridePreload
  rw [h.settings]
  refine (trying_tracks (h.loadPreload hp)).bind fun before => ?_
  refine (Try.Tracks.log _ _ _ _).bind fun _ => ?_
  refine (Try.Tracks.lift (note_tracks fun s => hf s _)).bind fun _ => ?_
  exact trying_tracks (h.storePreload hp _)

end Tracks

/-- What `Bench.setUp` does before the preload setting is overridden: stale instances, the profile,
and its initialization. -/
def prologue (b : Bench κ σ) : Try κ (World σ) RunError Unit := do
  trying b.quitStale
  if b.settings.initializeProfile then Try.lift (asking b.eraseProfile)
  if !(← Try.lift (asking (b.files.isDirectory b.settings.profile))) then b.createProfile

lemma setUp_eq (b : Bench κ σ) : b.setUp = (do
    b.prologue
    b.overridePreload
    b.makeTemporary) := by
  unfold setUp prologue
  simp only [bind_assoc]
  refine bind_congr fun _ => ?_
  by_cases erase : b.settings.initializeProfile
  · simp only [if_pos erase, bind_assoc]
    refine bind_congr fun _ => bind_congr fun present => ?_
    cases present <;> simp
  · simp only [if_neg erase, bind_assoc]
    refine bind_congr fun present => ?_
    cases present <;> simp

namespace Tracks

variable {π : τ → σ} {S : τ → τ → Prop} [IsPreorder τ S] {K : Part → Prop} {b' : Bench κ τ}
  {b : Bench κ σ} (h : b'.Tracks π S K b) {γ : Type} {f : State → γ}
include h

lemma prologue_tracks (hl : K .launcher) (hw : K .waiting) (hd : K .desktop)
    (hf : K .directories) (hs : ∀ s launched, f { s with launched } = f s) :
    Try.Tracks (World.map π) (Frame f S) b'.prologue b.prologue := by
  have present : Try.Tracks (World.map π) (Frame f S)
      (do if !(← Try.lift (asking (b'.files.isDirectory b.settings.profile)))
        then b'.createProfile)
      (do if !(← Try.lift (asking (b.files.isDirectory b.settings.profile)))
        then b.createProfile) := by
    refine (Try.Tracks.lift (asking_tracks (h.isDirectory hf _))).bind fun present => ?_
    exact Try.Tracks.ite (h.createProfile_tracks hl hw hd hs) (Try.Tracks.pure ())
  unfold prologue
  rw [h.settings]
  refine (trying_tracks (h.quitStale_tracks hd)).bind fun _ => Try.Tracks.ite ?_ present
  exact (Try.Tracks.lift (asking_tracks (h.eraseProfile_tracks hf))).bind fun _ => present

lemma setUp_tracks (hl : K .launcher) (hw : K .waiting) (hd : K .desktop) (hf : K .directories)
    (hp : K .preload) (hs : ∀ s launched savedPreload temporary,
      f { s with launched, savedPreload, temporary } = f s) :
    Try.Tracks (World.map π) (Frame f S) b'.setUp b.setUp := by
  rw [setUp_eq, setUp_eq]
  refine (h.prologue_tracks hl hw hd hf fun s _ => hs s _ _ _).bind fun _ => ?_
  refine (h.overridePreload_tracks hp fun s _ => hs s _ _ _).bind fun _ => ?_
  exact h.makeTemporary_tracks hf fun s _ => hs s _ _ _

/-! ## One iteration -/

lemma prepare_tracks (ht : K .tracer) (hp : K .prefetch)
    (hs : ∀ s tracing kernelFile, f { s with tracing, kernelFile } = f s) :
    Try.Tracks (World.map π) (Frame f S) b'.prepare b.prepare := by
  unfold prepare
  refine (Try.Tracks.lift (stateOf_tracks _)).bind fun temporary => ?_
  cases temporary with
  | none => exact Try.Tracks.fail _
  | some directory =>
    refine (trying_tracks (h.startTrace ht directory)).bind fun files => ?_
    refine (Try.Tracks.lift (note_tracks fun s => hs s _ _)).bind fun _ => ?_
    exact trying_tracks (h.purgePrefetch_tracks hp)

lemma launch_tracks (hl : K .launcher) (hs : ∀ s launched, f { s with launched } = f s) :
    Try.Tracks (World.map π) (Frame f S) b'.launch b.launch := by
  unfold launch
  rw [h.launchCommand_eq]
  refine (Try.Tracks.ofExcept _).bind fun command => ?_
  refine (trying_tracks (h.launchCommand hl command)).bind fun _ => ?_
  exact Try.Tracks.lift (note_tracks fun s => hs s true)

lemma shutDown_tracks (hd : K .desktop) (hs : ∀ s launched, f { s with launched } = f s) :
    Try.Tracks (World.map π) (Frame f S) b'.shutDown b.shutDown := by
  unfold shutDown
  rw [h.profileText_eq]
  refine (Try.Tracks.log _ _ _ _).bind fun _ => ?_
  refine (trying_tracks (h.quit_tracks hd)).bind fun _ => ?_
  exact Try.Tracks.lift (note_tracks fun s => hs s false)

lemma record_tracks (hs : ∀ s ledger, f { s with ledger } = f s) (metrics : List Metric) :
    Try.Tracks (World.map π) (Frame f S) (b'.record metrics) (b.record metrics) := by
  induction metrics with
  | nil => exact Try.Tracks.pure ()
  | cons m rest ih =>
    unfold record
    rw [h.graphName_eq]
    refine Try.Tracks.bind ⟨fun w => rfl, fun w => ?_⟩ fun _ => ih
    exact ⟨hs _ _, Std.Refl.refl w.outside⟩

lemma analyze_tracks (ha : K .analyzer)
    (hs : ∀ s kernelFile ledger, f { s with kernelFile, ledger } = f s) :
    Try.Tracks (World.map π) (Frame f S) b'.analyze b.analyze := by
  unfold analyze
  rw [h.settings]
  refine (Try.Tracks.lift (stateOf_tracks _)).bind fun kernelFile => ?_
  refine (Try.Tracks.lift (note_tracks fun s => hs s none _)).bind fun _ => ?_
  cases kernelFile with
  | none => exact Try.Tracks.pure ()
  | some file =>
    refine (trying_tracks (h.analyzeTrace ha file _)).bind fun metrics => ?_
    exact h.record_tracks (fun s _ => hs s _ _) metrics

lemma conclude_tracks (ht : K .tracer) (ha : K .analyzer) (hp : K .prefetch)
    (hs : ∀ s tracing kernelFile ledger, f { s with tracing, kernelFile, ledger } = f s) :
    Try.Tracks (World.map π) (Frame f S) b'.conclude b.conclude := by
  unfold conclude
  refine (Try.Tracks.lift (note_tracks fun s => hs s false _ _)).bind fun _ => ?_
  refine (trying_tracks (h.stopTrace ht)).bind fun _ => ?_
  refine (h.analyze_tracks ha fun s _ _ => hs s _ _ _).bind fun _ => ?_
  exact trying_tracks (h.purgePrefetch_tracks hp)

lemma processResults_tracks (ho : K .output) :
    Try.Tracks (World.map π) (Frame f S) b'.processResults b.processResults := by
  unfold processResults
  refine (Try.Tracks.lift (stateOf_tracks _)).bind fun ledger => ?_
  refine (tryingIo_tracks (h.writeLines_tracks ho _)).bind fun _ => ?_
  exact tryingIo_tracks (h.flushOutput ho)

/-! ## Tearing down -/

lemma stopTrace_tracks (ht : K .tracer) (hs : ∀ s tracing, f { s with tracing } = f s) :
    b'.stopTrace.Tracks (World.map π) (Frame f S) b.stopTrace := by
  unfold Bench.stopTrace
  refine (stateOf_tracks _).bind fun tracing => Act.Tracks.ite ?_ (Act.Tracks.pure ())
  refine (note_tracks fun s => hs s false).bind fun _ => ?_
  refine (asking_tracks (h.stopTrace ht).result).bind fun out => ?_
  cases out with
  | ok _ => exact Act.Tracks.pure ()
  | error e => exact Act.Tracks.log _ _ _ _

lemma quitLaunched_tracks (hd : K .desktop) (hs : ∀ s launched, f { s with launched } = f s) :
    b'.quitLaunched.Tracks (World.map π) (Frame f S) b.quitLaunched := by
  have forget : (note fun s => { s with launched := false } : Act κ (World τ) Unit).Tracks
      (World.map π) (Frame f S) (note fun s => { s with launched := false }) :=
    note_tracks fun s => hs s false
  unfold quitLaunched
  refine (stateOf_tracks _).bind fun launched => Act.Tracks.ite ?_ forget
  refine (asking_tracks (h.isRunning_tracks hd)).bind fun running => Act.Tracks.ite ?_ forget
  refine (Act.Tracks.log _ _ _ _).bind fun _ => ?_
  refine (asking_tracks (h.quit_tracks hd).result).bind fun out => ?_
  cases out with
  | ok _ => exact forget
  | error e => exact (Act.Tracks.log _ _ _ _).bind fun _ => forget

lemma restorePreload_tracks (hp : K .preload)
    (hs : ∀ s savedPreload, f { s with savedPreload } = f s) :
    b'.restorePreload.Tracks (World.map π) (Frame f S) b.restorePreload := by
  unfold restorePreload
  refine (stateOf_tracks _).bind fun saved => ?_
  refine (note_tracks fun s => hs s none).bind fun _ => ?_
  cases saved with
  | none => exact Act.Tracks.pure ()
  | some before =>
    refine Act.Tracks.bind (asking_tracks (h.storePreload hp before).result) fun out => ?_
    cases out with
    | ok _ => exact Act.Tracks.log _ _ _ _
    | error e => exact Act.Tracks.log _ _ _ _

lemma leaveTemporary_tracks (hd : K .directories)
    (hs : ∀ s temporary, f { s with temporary } = f s) :
    b'.leaveTemporary.Tracks (World.map π) (Frame f S) b.leaveTemporary := by
  unfold leaveTemporary
  rw [h.settings]
  refine (stateOf_tracks _).bind fun temporary => ?_
  refine (note_tracks fun s => hs s none).bind fun _ => ?_
  cases temporary with
  | none => exact Act.Tracks.pure ()
  | some path =>
    refine Act.Tracks.ite (Act.Tracks.log _ _ _ _) ?_
    refine (Act.Tracks.log _ _ _ _).bind fun _ => ?_
    refine (asking_tracks (h.removeDirectory hd path).result).bind fun out => ?_
    cases out with
    | ok _ => exact Act.Tracks.pure ()
    | error e => exact Act.Tracks.log _ _ _ _

lemma tearDown_tracks (ht : K .tracer) (hd : K .desktop) (hp : K .preload) (hf : K .directories)
    (hs : ∀ s tracing launched savedPreload temporary,
      f { s with tracing, launched, savedPreload, temporary } = f s) :
    b'.tearDown.Tracks (World.map π) (Frame f S) b.tearDown := by
  unfold tearDown
  refine (h.stopTrace_tracks ht fun s _ => hs s _ _ _ _).bind fun _ => ?_
  refine (h.quitLaunched_tracks hd fun s _ => hs s _ _ _ _).bind fun _ => ?_
  refine (h.restorePreload_tracks hp fun s _ => hs s _ _ _ _).bind fun _ => ?_
  exact h.leaveTemporary_tracks hf fun s _ => hs s _ _ _ _

end Tracks

end StartupBench.Bench
