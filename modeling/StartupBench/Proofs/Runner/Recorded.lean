import StartupBench.Proofs.Act.Tracked
import StartupBench.Proofs.Runner.Outline

/-!
# The calls of a run

`Subject.noted` makes a note of every call of a subject's steps at its end, with the step and how it
ended (`Subject.Call`), and `Runner.recorded` collects these notes in order.  `Runner.calls` is the
record of a whole life, up to the time when the run is let go of.

## Runs on a richer world

A record must not change what is recorded.  `Runner.Over π r' r` says that `r'` does on a richer
world what `r` does on the part of it that `π` reads; it is asked of each collaborator and proved of
the run (`Runner.Over.run_over`) and of its life (`Runner.Over.life_over`).  So every record in this
development has one lemma that says it is no more than a record (`Runner.recorded_over` and its
like), and what is proved of the recorded run is a fact about the run.

A richer world may keep more of the phases than the last one.  For that purpose the pieces of a run
that enter a phase are told once more with a parameter for it (`Runner.runBy`); with `Runner.enter`
they are the run itself (`Runner.run_eq_runBy`).
-/

namespace StartupBench

/-! ## Notes of calls -/

/-- A step of a subject (`Subject`), with the iteration if the step is told. -/
inductive Subject.Step where
  | setUp
  | prepare (iteration : Nat)
  | launch
  | isRunning
  | work (iteration : Nat)
  | shutDown
  | conclude (iteration : Nat)
  | processResults
  | tearDown
  deriving DecidableEq, Repr

/-- How a call of a step ended: with `()`, with an error, with the answer to a question, with a
panic or not at all. -/
inductive Subject.Ending where
  | done
  | failed (e : RunError)
  | answered (yes : Bool)
  | panicked (message : String)
  | stopped
  deriving DecidableEq, Repr

/-- A call of a step, noted at its end. -/
structure Subject.Call where
  step : Subject.Step
  ending : Subject.Ending
  deriving DecidableEq, Repr

namespace Subject

variable {κ σ ε : Type}

/-- The `Subject.Ending` of a call that may fail. -/
def Ending.ofTry : Outcome κ (Except RunError Unit) → Ending
  | .returned (.ok ()) => .done
  | .returned (.error e) => .failed e
  | .panicked m => .panicked m
  | .stopped _ => .stopped

/-- The `Subject.Ending` of a call that answers a question. -/
def Ending.ofAnswer : Outcome κ Bool → Ending
  | .returned yes => .answered yes
  | .panicked m => .panicked m
  | .stopped _ => .stopped

/-- The `Subject.Ending` of a call that cannot fail. -/
def Ending.ofAct : Outcome κ Unit → Ending
  | .returned () => .done
  | .panicked m => .panicked m
  | .stopped _ => .stopped

/-- A subject that makes a note of every call of its steps at the end of the call, after a panic too
(`Act.noted`). -/
def noted (note : Call → σ → σ) (s : Subject κ σ) : Subject κ σ where
  setUp := Try.noted (fun out => note ⟨.setUp, .ofTry out⟩) s.setUp
  prepare i := Try.noted (fun out => note ⟨.prepare i, .ofTry out⟩) (s.prepare i)
  launch := Try.noted (fun out => note ⟨.launch, .ofTry out⟩) s.launch
  isRunning := s.isRunning.noted fun out => note ⟨.isRunning, .ofAnswer out⟩
  work i := Try.noted (fun out => note ⟨.work i, .ofTry out⟩) (s.work i)
  shutDown := Try.noted (fun out => note ⟨.shutDown, .ofTry out⟩) s.shutDown
  conclude i := Try.noted (fun out => note ⟨.conclude i, .ofTry out⟩) (s.conclude i)
  processResults := Try.noted (fun out => note ⟨.processResults, .ofTry out⟩) s.processResults
  tearDown := s.tearDown.noted fun out => note ⟨.tearDown, .ofAct out⟩

/-- A subject on a world of which a record is kept.  Its calls are not recorded themselves, so that
`Recorded.calls` is left to what surrounds it. -/
def unrecorded (s : Subject κ σ) : Subject κ (Recorded ε σ) where
  setUp := Try.unrecorded s.setUp
  prepare i := Try.unrecorded (s.prepare i)
  launch := Try.unrecorded s.launch
  isRunning := s.isRunning.unrecorded
  work i := Try.unrecorded (s.work i)
  shutDown := Try.unrecorded s.shutDown
  conclude i := Try.unrecorded (s.conclude i)
  processResults := Try.unrecorded s.processResults
  tearDown := s.tearDown.unrecorded

/-- A subject that keeps a record of the calls of its steps: a `Subject.Call` is put at the end of
the record when it ends. -/
def recorded (s : Subject κ σ) : Subject κ (Recorded Call σ) :=
  s.unrecorded.noted fun call w => { w with calls := w.calls ++ [call] }

end Subject

/-! ## Waiting -/

/-- A wait for an application (`Patience.await`) tracks another if what it looks at, what it asks
and what it does in a pause does. -/
lemma Patience.await_tracks {κ σ τ : Type} {π : τ → σ} {S : τ → τ → Prop} [IsPreorder τ S]
    (p : Patience) {isRunning' interrupted' : Act κ τ Bool} {isRunning interrupted : Act κ σ Bool}
    {sleep' : Duration → Act κ τ Unit} {sleep : Duration → Act κ σ Unit}
    (hr : isRunning'.Tracks π S isRunning) (hi : interrupted'.Tracks π S interrupted)
    (hs : ∀ time, (sleep' time).Tracks π S (sleep time)) :
    Try.Tracks π S (p.await isRunning' interrupted' sleep')
      (p.await isRunning interrupted sleep) := by
  unfold await poll
  refine Act.Tracks.bind (Act.Tracks.first (fun n => ?_) _ _) fun _ => Act.Tracks.pure _
  unfold look
  refine hr.bind fun b => Act.Tracks.ite ?_ ?_
  · exact (Act.Tracks.log _ _ _ _).bind fun _ => Act.Tracks.pure _
  · refine hi.bind fun b => Act.Tracks.ite (Act.Tracks.pure _) ?_
    exact (hs _).bind fun _ => Act.Tracks.pure _

namespace Runner

variable {κ σ τ : Type}

/-- A run that keeps a record of the calls of its subject's steps.  Interrupt checks and pauses are
not in it. -/
def recorded (r : Runner κ σ) : Runner κ (Recorded Subject.Call σ) where
  subject := r.subject.recorded
  iterations := r.iterations
  patience := r.patience
  interrupted := r.interrupted.unrecorded
  sleep time := (r.sleep time).unrecorded

/-- The calls in the life of a run (`Runner.life`), in order.  The tear-down that is made when the
run is let go of is among them. -/
def calls (r : Runner κ σ) (progress : Option Progress) (w : σ) : List Subject.Call :=
  (r.recorded.life (World.fresh progress ⟨[], w⟩)).world.subject.calls

/-! ## Entering phases in another way

A richer world may keep more of the phases than the last one.  The pieces of a run that enter a
phase are told here with `entry` in place of `Runner.enter`. -/

section By

variable (entry : Phase → Act κ (World σ) Unit)

/-- Tear the subject down, unless that was done or nothing was begun: `Runner.tearDown` with another
`entry`. -/
def tearDownBy (r : Runner κ σ) : Act κ (World σ) Unit := do
  match (← Act.world).phase with
  | .tornDown => pure ()
  | phase =>
    if phase ≠ .created then onSubject r.subject.tearDown
    entry .tornDown
    onProgress Progress.finish

/-- Tear down and end with an error: `Runner.giveUp` with another `entry`. -/
def giveUpBy {α : Type} (r : Runner κ σ) (what : String) (e : RunError) :
    Try κ (World σ) RunError α := do
  Try.log .error .runner (what ++ e.message)
  Try.lift (r.tearDownBy entry)
  Try.fail e

/-- Process the results of a run without failures: `Runner.processResults` with another `entry`. -/
def processResultsBy (r : Runner κ σ) : Try κ (World σ) RunError Unit := do
  Try.lift (entry .processResults)
  match ← (trySubject r.subject.processResults).attempt with
  | .error e => r.giveUpBy entry "Processing results failed: " e
  | .ok () => pure ()

/-- The whole run: `Runner.run` with another `entry`. -/
def runBy (r : Runner κ σ) : Try κ (World σ) RunError Report := do
  Try.lift (entry .setUp)
  match ← (trySubject r.subject.setUp).attempt with
  | .error e => r.giveUpBy entry "Setup failed: " e
  | .ok () =>
    Try.lift (entry .iterating)
    let (completed, failure) ← Try.lift (r.iterate 0 r.iterations)
    if failure.isNone then r.processResultsBy entry
    Try.lift (r.tearDownBy entry)
    let w ← Try.world
    pure { completed, failed := failure.map fun _ => completed, error := failure, phase := w.phase }

end By

lemma tearDown_eq_tearDownBy (r : Runner κ σ) : r.tearDown = r.tearDownBy enter := rfl

lemma run_eq_runBy (r : Runner κ σ) : r.run = r.runBy enter := rfl

/-! ## Runs on a richer world -/

/-- Apply `π` to the part of the world that belongs to the subject; the phase and the progress are
kept. -/
def World.map (π : τ → σ) (w : World τ) : World σ := ⟨w.phase, w.progress, π w.subject⟩

/-- The run `r'` does what `r` does on the part of the world that `π` reads: each collaborator is
`Act.Over` its counterpart, and the numbers are the same. -/
structure Over (π : τ → σ) (r' : Runner κ τ) (r : Runner κ σ) : Prop where
  iterations : r'.iterations = r.iterations
  patience : r'.patience = r.patience
  interrupted : r'.interrupted.Over π r.interrupted
  sleep : ∀ time, (r'.sleep time).Over π (r.sleep time)
  setUp : Try.Over π r'.subject.setUp r.subject.setUp
  prepare : ∀ i, Try.Over π (r'.subject.prepare i) (r.subject.prepare i)
  launch : Try.Over π r'.subject.launch r.subject.launch
  isRunning : r'.subject.isRunning.Over π r.subject.isRunning
  work : ∀ i, Try.Over π (r'.subject.work i) (r.subject.work i)
  shutDown : Try.Over π r'.subject.shutDown r.subject.shutDown
  conclude : ∀ i, Try.Over π (r'.subject.conclude i) (r.subject.conclude i)
  processResults : Try.Over π r'.subject.processResults r.subject.processResults
  tearDown : r'.subject.tearDown.Over π r.subject.tearDown

section Pieces

variable {α : Type} {π : τ → σ}

lemma onSubject_over {x' : Act κ τ α} {x : Act κ σ α} (h : x'.Over π x) :
    (onSubject x').Over (World.map π) (onSubject x) := by
  intro w
  unfold onSubject Act.within World.map
  dsimp only
  rw [h w.subject]

lemma trySubject_over {x' : Try κ τ RunError α} {x : Try κ σ RunError α}
    (h : Try.Over π x' x) : Try.Over (World.map π) (trySubject x') (trySubject x) :=
  onSubject_over h

lemma enter_over (phase : Phase) :
    (enter phase : Act κ (World τ) Unit).Over (World.map π) (enter phase) :=
  Act.Over.update fun _ => rfl

lemma onProgress_over (f : Progress → Progress) :
    (onProgress f : Act κ (World τ) Unit).Over (World.map π) (onProgress f) :=
  Act.Over.update fun _ => rfl

lemma stage_over (i : Nat) (text : String) :
    Try.Over (World.map π) (stage i text : Try κ (World τ) RunError Unit) (stage i text) :=
  Try.Over.lift (onProgress_over _)

end Pieces

namespace Over

variable {π : τ → σ} {r' : Runner κ τ} {r : Runner κ σ} (h : r'.Over π r)
include h

lemma await_over : Try.Over π
    (r'.patience.await r'.subject.isRunning r'.interrupted r'.sleep)
    (r.patience.await r.subject.isRunning r.interrupted r.sleep) := by
  rw [h.patience]
  exact (r.patience.await_tracks h.isRunning.tracks h.interrupted.tracks
    fun time => (h.sleep time).tracks).toOver

lemma iteration_over (i : Nat) : Try.Over (World.map π) (r'.iteration i) (r.iteration i) := by
  unfold Runner.iteration
  refine (stage_over i _).bind fun _ => (trySubject_over (h.prepare i)).bind fun _ => ?_
  refine (stage_over i _).bind fun _ => (trySubject_over h.launch).bind fun _ => ?_
  refine (trySubject_over h.await_over).bind fun _ => ?_
  refine (stage_over i _).bind fun _ => (trySubject_over (h.work i)).bind fun _ => ?_
  refine (stage_over i _).bind fun _ => (trySubject_over h.shutDown).bind fun _ => ?_
  exact (stage_over i _).bind fun _ => trySubject_over (h.conclude i)

lemma attempt_over (i : Nat) : (r'.attempt i).Over (World.map π) (r.attempt i) := by
  unfold Runner.attempt
  refine (onSubject_over h.interrupted).bind fun b => Act.Over.ite ?_ ?_
  · exact (Act.Over.log _ _ _ _).bind fun _ => Act.Over.pure _
  · refine (Act.Over.log _ _ _ _).bind fun _ => Act.Over.bind (h.iteration_over i) fun res => ?_
    cases res with
    | error e => exact (Act.Over.log _ _ _ _).bind fun _ => Act.Over.pure _
    | ok _ => exact (onProgress_over _).bind fun _ => Act.Over.pure _

lemma iterate_over (done left : Nat) :
    (r'.iterate done left).Over (World.map π) (r.iterate done left) := by
  unfold Runner.iterate
  refine (Act.Over.first (fun i => ?_) _ _).bind fun _ => Act.Over.pure _
  exact (h.attempt_over i).bind fun _ => Act.Over.pure _

section By

variable {entry' : Phase → Act κ (World τ) Unit} {entry : Phase → Act κ (World σ) Unit}
  (he : ∀ phase, (entry' phase).Over (World.map π) (entry phase))
include he

lemma tearDownBy_over : (r'.tearDownBy entry').Over (World.map π) (r.tearDownBy entry) := by
  unfold tearDownBy
  refine Act.Over.bind_world fun w => ?_
  have nothing : (pure () : Act κ (World τ) Unit).Over (World.map π) (pure ()) := Act.Over.pure ()
  have close := (he .tornDown).bind fun _ => onProgress_over Progress.finish
  have begun := (onSubject_over h.tearDown).bind fun _ => close
  obtain ⟨phase, progress, s⟩ := w
  cases phase with
  | tornDown => exact nothing ⟨.tornDown, progress, s⟩
  | created => exact close ⟨.created, progress, s⟩
  | setUp => exact begun ⟨.setUp, progress, s⟩
  | iterating => exact begun ⟨.iterating, progress, s⟩
  | processResults => exact begun ⟨.processResults, progress, s⟩

lemma giveUpBy_over {α : Type} (what : String) (e : RunError) :
    Try.Over (World.map π) (r'.giveUpBy entry' what e : Try κ (World τ) RunError α)
      (r.giveUpBy entry what e) := by
  unfold giveUpBy
  refine (Try.Over.log _ _ _ _).bind fun _ => ?_
  exact (Try.Over.lift (h.tearDownBy_over he)).bind fun _ => Try.Over.fail e

lemma processResultsBy_over :
    Try.Over (World.map π) (r'.processResultsBy entry') (r.processResultsBy entry) := by
  unfold processResultsBy
  refine (Try.Over.lift (he _)).bind fun _ => ?_
  refine (Try.Over.attempt (trySubject_over h.processResults)).bind fun res => ?_
  cases res with
  | error e => exact h.giveUpBy_over he _ e
  | ok _ => exact Try.Over.pure _

lemma runBy_over : Try.Over (World.map π) (r'.runBy entry') (r.runBy entry) := by
  unfold runBy
  refine (Try.Over.lift (he _)).bind fun _ => ?_
  refine (Try.Over.attempt (trySubject_over h.setUp)).bind fun res => ?_
  cases res with
  | error e => exact h.giveUpBy_over he _ e
  | ok _ =>
    refine (Try.Over.lift (he _)).bind fun _ => ?_
    rw [h.iterations]
    refine (Try.Over.lift (h.iterate_over 0 _)).bind fun ended => ?_
    obtain ⟨completed, failure⟩ := ended
    have report : Try.Over (World.map π)
        (do
          Try.lift (r'.tearDownBy entry')
          let w ← Try.world
          pure ⟨completed, failure.map fun _ => completed, failure, w.phase⟩ :
          Try κ (World τ) RunError Report)
        (do
          Try.lift (r.tearDownBy entry)
          let w ← Try.world
          pure ⟨completed, failure.map fun _ => completed, failure, w.phase⟩) :=
      (Try.Over.lift (h.tearDownBy_over he)).bind fun _ =>
        Try.Over.bind_world fun w => Try.Over.pure _ w
    dsimp only
    cases failure with
    | some e => exact report
    | none => exact (h.processResultsBy_over he).bind fun _ => report

end By

lemma tearDown_over : r'.tearDown.Over (World.map π) r.tearDown :=
  h.tearDownBy_over fun phase => enter_over phase

lemma run_over : Try.Over (World.map π) r'.run r.run := h.runBy_over fun phase => enter_over phase

/-- The life of a run on a richer world is its life on the world: `Runner.life` is `Act.Over` the
one of `r`, whatever happens in it. -/
lemma life_over : r'.life.Over (World.map π) r.life :=
  Act.Over.ensuring h.run_over h.tearDown_over

end Over

/-- The record does not change the run: `Runner.recorded` is `Runner.Over` the run itself. -/
lemma recorded_over (r : Runner κ σ) : r.recorded.Over Recorded.world r where
  iterations := rfl
  patience := rfl
  interrupted := Act.unrecorded_over _
  sleep _ := Act.unrecorded_over _
  setUp := Try.Over.noted (Try.unrecorded_over _) fun _ _ => rfl
  prepare _ := Try.Over.noted (Try.unrecorded_over _) fun _ _ => rfl
  launch := Try.Over.noted (Try.unrecorded_over _) fun _ _ => rfl
  isRunning := Act.Over.noted (Act.unrecorded_over _) fun _ _ => rfl
  work _ := Try.Over.noted (Try.unrecorded_over _) fun _ _ => rfl
  shutDown := Try.Over.noted (Try.unrecorded_over _) fun _ _ => rfl
  conclude _ := Try.Over.noted (Try.unrecorded_over _) fun _ _ => rfl
  processResults := Try.Over.noted (Try.unrecorded_over _) fun _ _ => rfl
  tearDown := Act.Over.noted (Act.unrecorded_over _) fun _ _ => rfl

/-- Whether calls come back (`Runner.Returns`) is not changed by a richer world on which they do the
same. -/
lemma Returns.inherited {π : τ → σ} {r' : Runner κ τ} {r : Runner κ σ} (returns : r.Returns)
    (h : r'.Over π r) : r'.Returns where
  setUp := Act.Returns.inherited returns.setUp h.setUp
  prepare i := Act.Returns.inherited (returns.prepare i) (h.prepare i)
  launch := Act.Returns.inherited returns.launch h.launch
  isRunning := returns.isRunning.inherited h.isRunning
  work i := Act.Returns.inherited (returns.work i) (h.work i)
  shutDown := Act.Returns.inherited returns.shutDown h.shutDown
  conclude i := Act.Returns.inherited (returns.conclude i) (h.conclude i)
  processResults := Act.Returns.inherited returns.processResults h.processResults
  tearDown := returns.tearDown.inherited h.tearDown
  interrupted := returns.interrupted.inherited h.interrupted
  sleep time := (returns.sleep time).inherited (h.sleep time)

lemma Returns.recorded {r : Runner κ σ} (returns : r.Returns) : r.recorded.Returns :=
  returns.inherited r.recorded_over

end Runner

end StartupBench
