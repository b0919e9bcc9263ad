import StartupBench.Runner.Patience
import StartupBench.Runner.Progress

/-!
# Running the iterations of a benchmark

A `Subject` is what is benchmarked, as a record of the steps it offers: it is set up once, goes
through so many iterations and is torn down once.  `Runner.run` takes it through them:

* an iteration is: prepare, launch, wait until it runs, let it work, shut it down, conclude;
* the first failure ends the iterations; only a run without one processes its results;
* tear-down follows on every way out of `run`, and `Runner.drop` makes up for it after a panic.

The phase of the run and its progress are part of the world (`Runner.World`), so that they are
known after a panic too.
-/

namespace StartupBench

/-! ## What is run -/

/-- The steps of a benchmark, over a world `σ`. -/
structure Subject (κ σ : Type) where
  setUp : Try κ σ RunError Unit
  /-- Prepare an iteration. -/
  prepare : Nat → Try κ σ RunError Unit := fun _ => pure ()
  launch : Try κ σ RunError Unit
  isRunning : Act κ σ Bool
  /-- Let the launched application work. -/
  work : Nat → Try κ σ RunError Unit := fun _ => pure ()
  shutDown : Try κ σ RunError Unit
  /-- Conclude an iteration. -/
  conclude : Nat → Try κ σ RunError Unit := fun _ => pure ()
  processResults : Try κ σ RunError Unit := pure ()
  tearDown : Act κ σ Unit

/-- Where a run stands. -/
inductive Phase where
  | created
  | setUp
  | iterating
  | processResults
  | tornDown
  deriving DecidableEq, Repr

/-- The name of the phase. -/
def Phase.name : Phase → String
  | .created => "Created"
  | .setUp => "SetUp"
  | .iterating => "Iterating"
  | .processResults => "ProcessResults"
  | .tornDown => "TornDown"

/-- What became of a run that was set up and whose results, if they were processed, were processed
without an error. -/
structure Report where
  completed : Nat
  /-- The iteration that failed. -/
  failed : Option Nat
  /-- Why it failed. -/
  error : Option RunError
  /-- The phase at the end. -/
  phase : Phase
  deriving DecidableEq, Repr

/-- Whether every iteration was completed. -/
def Report.isSuccess (r : Report) : Bool := r.error.isNone

/-- What the runner knows, beside the world of its subject. -/
structure Runner.World (σ : Type) where
  phase : Phase := .created
  progress : Option Progress := none
  subject : σ

/-- A run that is to be made. -/
structure Runner (κ σ : Type) where
  subject : Subject κ σ
  iterations : Nat
  patience : Patience := {}
  /-- Whether the user wants to stop. -/
  interrupted : Act κ σ Bool
  /-- Pause. -/
  sleep : Duration → Act κ σ Unit

namespace Runner

variable {κ σ : Type}

/-! ## Small steps -/

/-- A step of the subject. -/
def onSubject {α : Type} (x : Act κ σ α) : Act κ (World σ) α :=
  x.within World.subject fun s w => { w with subject := s }

/-- A step of the subject that may fail. -/
def trySubject {α : Type} (x : Try κ σ RunError α) : Try κ (World σ) RunError α :=
  ExceptT.mk (onSubject x.run)

/-- Enter a phase. -/
def enter (phase : Phase) : Act κ (World σ) Unit := Act.update fun w => { w with phase }

/-- Change the progress indicator, if there is one. -/
def onProgress (f : Progress → Progress) : Act κ (World σ) Unit :=
  Act.update fun w => { w with progress := w.progress.map f }

/-- Say what an iteration is doing. -/
def stage (iteration : Nat) (text : String) : Try κ (World σ) RunError Unit :=
  ExceptT.lift (onProgress fun p => p.setStage iteration text)

/-! ## The run -/

/-- Tear the subject down, unless that was done or nothing was begun. -/
def tearDown (r : Runner κ σ) : Act κ (World σ) Unit := do
  match (← Act.world).phase with
  | .tornDown => pure ()
  | phase =>
    if phase ≠ .created then onSubject r.subject.tearDown
    enter .tornDown
    onProgress Progress.finish

/-- The steps of one iteration. -/
def iteration (r : Runner κ σ) (i : Nat) : Try κ (World σ) RunError Unit := do
  stage i "starting trace"
  trySubject (r.subject.prepare i)
  stage i "launching"
  trySubject r.subject.launch
  trySubject (r.patience.await r.subject.isRunning r.interrupted r.sleep)
  stage i "settling"
  trySubject (r.subject.work i)
  stage i "shutting down"
  trySubject r.subject.shutDown
  stage i "analyzing"
  trySubject (r.subject.conclude i)

/-- One iteration with what is said about it.  The answer is why the iterations end, if they do. -/
def attempt (r : Runner κ σ) (i : Nat) : Act κ (World σ) (Option RunError) := do
  if ← onSubject r.interrupted then
    Act.log .warn .runner ("Interrupted before iteration " ++ toString i)
    pure (some .interrupted)
  else
    Act.log .info .runner ("Starting iteration " ++ toString i)
    match ← (r.iteration i).result with
    | .error e =>
      Act.log .error .runner ("Failure in iteration " ++ toString i ++ ": " ++ e.message)
        [("iteration", toString i)]
      pure (some e)
    | .ok () =>
      onProgress Progress.iterationDone
      pure none

/-- Go through `left` iterations after the first `done`.  Answers how many are completed at the end
and why there are not more. -/
def iterate (r : Runner κ σ) (done left : Nat) : Act κ (World σ) (Nat × Option RunError) := do
  let ending ← Act.first (fun i => do
    let failure ← r.attempt i
    pure (failure.map fun e => (i, some e))) left done
  pure (ending.getD (done + left, none))

theorem iterate_zero (r : Runner κ σ) (done : Nat) : r.iterate done 0 = pure (done, none) := rfl

theorem iterate_succ (r : Runner κ σ) (done left : Nat) :
    r.iterate done (left + 1) = (do
      match ← r.attempt done with
      | some e => pure (done, some e)
      | none => r.iterate (done + 1) left) := by
  unfold iterate
  rw [Act.first_succ]
  simp only [bind_assoc, pure_bind]
  congr 1
  funext failure
  cases failure <;> simp [Nat.add_assoc, Nat.add_comm 1]

/-- Tear down and end with an error. -/
def giveUp {α : Type} (r : Runner κ σ) (what : String) (e : RunError) :
    Try κ (World σ) RunError α := do
  Try.log .error .runner (what ++ e.message)
  Try.lift r.tearDown
  Try.fail e

/-- Process the results of a run without failures. -/
def processResults (r : Runner κ σ) : Try κ (World σ) RunError Unit := do
  Try.lift (enter .processResults)
  match ← (trySubject r.subject.processResults).attempt with
  | .error e => r.giveUp "Processing results failed: " e
  | .ok () => pure ()

/-- The whole run. -/
def run (r : Runner κ σ) : Try κ (World σ) RunError Report := do
  Try.lift (enter .setUp)
  match ← (trySubject r.subject.setUp).attempt with
  | .error e => r.giveUp "Setup failed: " e
  | .ok () =>
    Try.lift (enter .iterating)
    let (completed, failure) ← Try.lift (r.iterate 0 r.iterations)
    if failure.isNone then r.processResults
    Try.lift r.tearDown
    let w ← Try.world
    pure { completed, failed := failure.map fun _ => completed, error := failure, phase := w.phase }

/-- Let go of a run that may have been left by a panic. -/
def drop (r : Runner κ σ) : Act κ (World σ) Unit := r.tearDown

end Runner

end StartupBench
