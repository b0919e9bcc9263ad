import StartupBench.Proofs.Runner.Recorded

/-!
# What happens to a runner

A runner can be run any number of times before it is let go of (`Runner.lifetime`).  `Runner.stirs`
is the record of all that: every phase that is entered, with the phase before it, and every call of
a step.

What such a record looks like is told by relations that follow the code: `Begun` for a run up to its
tear-down, `Closing` for the tear-down, `RunStirs` for a run, `DropStirs` for letting go of the
runner and `LifeStirs` for the whole.  Each of them relates the phase before, what happens, and the
phase after.  `Runner.lifeStirs` says that every record is made like that.

The phases are kept in the world of the runner and not in that of its subject, so that the record is
made where a phase is entered (`Runner.enterStirring`), in place of `Runner.enter`.  That this is
the same runner otherwise is `Runner.lifetimeBy_over`.
-/

namespace StartupBench

namespace Act

variable {κ σ τ α β : Type}

lemma Over.catching {π : τ → σ} {x' : Act κ τ α} {x : Act κ σ α} (h : x'.Over π x) :
    x'.catching.Over π x.catching := by
  intro w
  unfold Act.catching
  rw [h w]
  rcases x' w with ⟨a | m | k, w₁, n₁⟩ <;> rfl

/-- What comes after a computation whose panics are caught (`Act.catching`) goes on with the world
it leaves, if it comes back. -/
lemma catching_bind_world {x : Act κ σ α} (hx : x.Returns) (y : Act κ σ β) (w : σ) :
    ((do let _ ← x.catching; y) w).world = (y (x w).world).world := by
  rw [bind_run]
  unfold Act.catching
  rcases hw : x w with ⟨a | m | k, w₁, n₁⟩
  · rfl
  · rfl
  · exact absurd (congrArg Ran.outcome hw) (hx w k)

end Act

namespace Runner

variable {κ σ : Type}

/-! ## The record -/

/-- Something that happens to a runner: it enters a phase, or it calls a step of its subject. -/
inductive Stir where
  | entered (before after : Phase)
  | called (call : Subject.Call)
  deriving DecidableEq, Repr

namespace Stir

/-- A step is called that belongs to an iteration, and so neither sets up nor processes results nor
tears down. -/
def InIteration : Stir → Prop
  | entered _ _ => False
  | called call => call.step ≠ .setUp ∧ call.step ≠ .processResults ∧ call.step ≠ .tearDown

end Stir

/-- So many runs one after the other, whether they answer or panic (`Act.catching`); then the runner
is let go of. -/
def lifetime (r : Runner κ σ) : Nat → Act κ (World σ) Unit
  | 0 => r.drop
  | runs + 1 => do
    let _ ← Act.catching r.run.result
    r.lifetime runs

/-- `Runner.lifetime` with another way to enter a phase. -/
def lifetimeBy (entry : Phase → Act κ (World σ) Unit) (r : Runner κ σ) :
    Nat → Act κ (World σ) Unit
  | 0 => r.tearDownBy entry
  | runs + 1 => do
    let _ ← Act.catching (r.runBy entry).result
    r.lifetimeBy entry runs

/-- A runner that keeps a record of what happens to it, as far as the calls of steps go; the phases
are recorded by `Runner.enterStirring`. -/
def stirring (r : Runner κ σ) : Runner κ (Recorded Stir σ) where
  subject := r.subject.unrecorded.noted fun call w => { w with calls := w.calls ++ [.called call] }
  iterations := r.iterations
  patience := r.patience
  interrupted := r.interrupted.unrecorded
  sleep time := (r.sleep time).unrecorded

/-- Enter a phase and keep a record of it, with the phase that is left. -/
def enterStirring (phase : Phase) : Act κ (World (Recorded Stir σ)) Unit :=
  Act.update fun w =>
    { w with
      phase
      subject := { w.subject with calls := w.subject.calls ++ [.entered w.phase phase] } }

/-- What happens to a runner that is run so many times and then let go of, in order. -/
def stirs (r : Runner κ σ) (runs : Nat) (progress : Option Progress) (w : σ) : List Stir :=
  (r.stirring.lifetimeBy enterStirring runs (.fresh progress ⟨[], w⟩)).world.subject.calls

lemma stirring_over (r : Runner κ σ) : r.stirring.Over Recorded.world r where
  iterations := rfl
  patience := rfl
  interrupted := Act.unrecorded_over _
  sleep _ := Act.unrecorded_over _
  setUp := Try.Over.noted (Try.unrecorded_over _) fun _ _ => rfl
  prepare _ := Try.Over.noted (Try.unrecorded_over _) fun _ _ => rfl
  launch := Try.Over.noted (Try.unrecorded_over _) fun _ _ => rfl
  isRunning := Act.Over.noted (Act.unrecorded_over _) fun _ _ => rfl
  work _ := Try.Over.noted (Try.unrecorded_over _) fun _ _ => rfl
  shutDown := Try.Over.noted (Try.unrecorded_over _) fun _ _ => rfl
  conclude _ := Try.Over.noted (Try.unrecorded_over _) fun _ _ => rfl
  processResults := Try.Over.noted (Try.unrecorded_over _) fun _ _ => rfl
  tearDown := Act.Over.noted (Act.unrecorded_over _) fun _ _ => rfl

lemma enterStirring_over (phase : Phase) :
    (enterStirring phase : Act κ (World (Recorded Stir σ)) Unit).Over (World.map Recorded.world)
      (enter phase) := Act.Over.update fun _ => rfl

/-- The record changes nothing: with `Runner.enterStirring` the lifetime of the recorded runner is
`Act.Over` the one of the runner. -/
lemma lifetimeBy_over (r : Runner κ σ) (runs : Nat) :
    (r.stirring.lifetimeBy enterStirring runs).Over (World.map Recorded.world)
      (r.lifetime runs) := by
  induction runs with
  | zero =>
    have dropped : (r.stirring.tearDownBy enterStirring).Over (World.map Recorded.world)
        r.tearDown := by
      rw [r.tearDown_eq_tearDownBy]
      exact r.stirring_over.tearDownBy_over enterStirring_over
    exact dropped
  | succ runs ih =>
    have ran : Try.Over (World.map Recorded.world) (r.stirring.runBy enterStirring) r.run := by
      rw [r.run_eq_runBy]
      exact r.stirring_over.runBy_over enterStirring_over
    exact Act.Over.bind (Act.Over.catching ran) fun _ => ih

/-! ## What a record looks like -/

/-- The subject is set up, and `calls` are made in the iterations.  The runner was in the phase
`before`, which may be any. -/
def setUpAnd (before : Phase) (calls : List Stir) : List Stir :=
  [.entered before .setUp, .called ⟨.setUp, .done⟩, .entered .setUp .iterating] ++ calls

/-- What happens in a run up to its tear-down, from the phase `before` to the phase after it.  A
panic may leave it at any of these points. -/
inductive Begun (before : Phase) : List Stir → Phase → Prop where
  | settingUp (ending : Subject.Ending) :
    Begun before [.entered before .setUp, .called ⟨.setUp, ending⟩] .setUp
  | iterating (calls : List Stir) (inIteration : ∀ s ∈ calls, s.InIteration) :
    Begun before (setUpAnd before calls) .iterating
  | processing (calls : List Stir) (inIteration : ∀ s ∈ calls, s.InIteration)
      (ending : Subject.Ending) :
    Begun before
      (setUpAnd before calls ++
        [.entered .iterating .processResults, .called ⟨.processResults, ending⟩])
      .processResults

/-- What happens when the subject is torn down: the call, and the phase after it if the call comes
back. -/
inductive Closing (before : Phase) : List Stir → Phase → Prop where
  | done : Closing before [.called ⟨.tearDown, .done⟩, .entered before .tornDown] .tornDown
  | panicked (m : String) : Closing before [.called ⟨.tearDown, .panicked m⟩] before

/-- What happens in a run: it has `Begun`, and it is closed unless a panic has left it before. -/
inductive RunStirs (before : Phase) : List Stir → Phase → Prop where
  /-- A panic has left the run before it tore down. -/
  | left {stirs : List Stir} {after : Phase} (h : Begun before stirs after) :
    RunStirs before stirs after
  | closed {stirs more : List Stir} {phase after : Phase} (h : Begun before stirs phase)
      (h' : Closing phase more after) : RunStirs before (stirs ++ more) after

/-- What happens when a runner is let go of: nothing if it is torn down, a change of phase if it was
never run, and a tear-down otherwise. -/
inductive DropStirs : Phase → List Stir → Phase → Prop where
  | created : DropStirs .created [.entered .created .tornDown] .tornDown
  | tornDown : DropStirs .tornDown [] .tornDown
  | closed {before : Phase} {stirs : List Stir} {after : Phase} (isOpen : Open before)
      (h : Closing before stirs after) : DropStirs before stirs after

/-- What happens to a runner that is run so many times and then let go of: `RunStirs` for each run
and `DropStirs` at the end. -/
inductive LifeStirs : Nat → Phase → List Stir → Phase → Prop where
  | dropped {before : Phase} {stirs : List Stir} {after : Phase}
      (h : DropStirs before stirs after) : LifeStirs 0 before stirs after
  | run {runs : Nat} {before phase after : Phase} {stirs more : List Stir}
      (h : RunStirs before stirs phase) (h' : LifeStirs runs phase more after) :
    LifeStirs (runs + 1) before (stirs ++ more) after

/-! ## The steps that are recorded -/

section Steps

variable {w : Recorded Stir σ} {P : String → Recorded Stir σ → Prop}

lemma yields_stirring {x : Try κ σ RunError Unit} {step : Subject.Step}
    {R : Unit → Recorded Stir σ → Prop} {E : RunError → Recorded Stir σ → Prop}
    (hR : ∀ s, R () ⟨w.calls ++ [.called ⟨step, .done⟩], s⟩)
    (hE : ∀ e s, E e ⟨w.calls ++ [.called ⟨step, .failed e⟩], s⟩)
    (hP : ∀ m s, P m ⟨w.calls ++ [.called ⟨step, .panicked m⟩], s⟩) :
    Try.Yields
      (Try.noted (fun out w => { w with calls := w.calls ++ [.called ⟨step, .ofTry out⟩] })
        (Try.unrecorded x)) w R E P := by
  rw [Try.yields_noted, Try.yields_unrecorded]
  exact Try.Yields.anyway (fun _ => hR) hE hP

lemma stirring_tearDown_yields {r : Runner κ σ} {R : Unit → Recorded Stir σ → Prop}
    (hR : ∀ s, R () ⟨w.calls ++ [.called ⟨.tearDown, .done⟩], s⟩)
    (hP : ∀ m s, P m ⟨w.calls ++ [.called ⟨.tearDown, .panicked m⟩], s⟩) :
    r.stirring.subject.tearDown.Yields w R P := by
  unfold stirring Subject.noted Subject.unrecorded
  rw [Act.yields_noted, Act.yields_unrecorded]
  exact Act.Yields.anyway (fun _ => hR) hP

lemma stirring_respects {x : Try κ σ RunError Unit} {step : Subject.Step}
    (h : ∀ ending, Stir.InIteration (.called ⟨step, ending⟩)) :
    Try.Respects (Recorded.Adds Stir.InIteration)
      (Try.noted (fun out w => { w with calls := w.calls ++ [.called ⟨step, .ofTry out⟩] })
        (Try.unrecorded x)) :=
  Act.Respects.recorded x.run fun _ => h _

end Steps

/-! ## The iterations -/

/-- No phase is entered in between, and only steps of iterations are called (`Stir.InIteration`). -/
def Iterated (w w₁ : World (Recorded Stir σ)) : Prop :=
  w₁.phase = w.phase ∧ Recorded.Adds Stir.InIteration w.subject w₁.subject

instance : IsPreorder (World (Recorded Stir σ)) Iterated where
  refl _ := ⟨rfl, Std.Refl.refl _⟩
  trans _ _ _ h h₁ := ⟨h₁.1.trans h.1, IsTrans.trans _ _ _ h.2 h₁.2⟩

section Iterations

variable (r : Runner κ σ)

lemma onSubject_iterated {α : Type} {x : Act κ (Recorded Stir σ) α}
    (h : x.Respects (Recorded.Adds Stir.InIteration)) : (onSubject x).Respects Iterated :=
  fun w => ⟨rfl, h w.subject⟩

lemma trySubject_iterated {α : Type} {x : Try κ (Recorded Stir σ) RunError α}
    (h : Try.Respects (Recorded.Adds Stir.InIteration) x) :
    Try.Respects Iterated (trySubject x) := onSubject_iterated h

lemma onProgress_iterated (f : Progress → Progress) :
    (onProgress f : Act κ (World (Recorded Stir σ)) Unit).Respects Iterated :=
  fun _ => ⟨rfl, Std.Refl.refl _⟩

lemma stage_iterated (i : Nat) (text : String) :
    Try.Respects Iterated (stage i text : Try κ (World (Recorded Stir σ)) RunError Unit) :=
  Try.Respects.lift (onProgress_iterated _)

lemma await_respects : Try.Respects (Recorded.Adds Stir.InIteration)
    (r.stirring.patience.await r.stirring.subject.isRunning r.stirring.interrupted
      r.stirring.sleep) := by
  have untold : ∀ {α : Type} (x : Act κ σ α),
      x.unrecorded.Tracks Recorded.world (Recorded.Adds Stir.InIteration) x :=
    fun x => ⟨Act.unrecorded_over x, Act.Respects.unrecorded _ x⟩
  have inIteration : ∀ out : Outcome κ Bool,
      Stir.InIteration (.called ⟨.isRunning, .ofAnswer out⟩) := fun _ => ⟨nofun, nofun, nofun⟩
  have looks : r.stirring.subject.isRunning.Tracks Recorded.world
      (Recorded.Adds Stir.InIteration) r.subject.isRunning :=
    Act.recorded_tracks _ r.subject.isRunning inIteration
  exact (r.patience.await_tracks looks (untold r.interrupted)
    fun time => untold (r.sleep time)).respects

lemma iteration_iterated (i : Nat) : Try.Respects Iterated (r.stirring.iteration i) := by
  have inIteration : ∀ step : Subject.Step,
      step ≠ .setUp → step ≠ .processResults → step ≠ .tearDown →
      ∀ ending, Stir.InIteration (.called ⟨step, ending⟩) :=
    fun _ h₁ h₂ h₃ _ => ⟨h₁, h₂, h₃⟩
  have called : ∀ (x : Try κ σ RunError Unit) (step : Subject.Step),
      step ≠ .setUp → step ≠ .processResults → step ≠ .tearDown →
      Try.Respects Iterated (trySubject
        (Try.noted (fun out w => { w with calls := w.calls ++ [.called ⟨step, .ofTry out⟩] })
          (Try.unrecorded x))) :=
    fun x step h₁ h₂ h₃ => trySubject_iterated (stirring_respects (inIteration step h₁ h₂ h₃))
  unfold Runner.iteration
  refine (stage_iterated i _).bind fun _ => ?_
  refine (called (r.subject.prepare i) (.prepare i) nofun nofun nofun).bind fun _ => ?_
  refine (stage_iterated i _).bind fun _ => ?_
  refine (called r.subject.launch .launch nofun nofun nofun).bind fun _ => ?_
  refine (trySubject_iterated r.await_respects).bind fun _ => ?_
  refine (stage_iterated i _).bind fun _ => ?_
  refine (called (r.subject.work i) (.work i) nofun nofun nofun).bind fun _ => ?_
  refine (stage_iterated i _).bind fun _ => ?_
  refine (called r.subject.shutDown .shutDown nofun nofun nofun).bind fun _ => ?_
  refine (stage_iterated i _).bind fun _ => ?_
  exact called (r.subject.conclude i) (.conclude i) nofun nofun nofun

lemma iterate_iterated (done left : Nat) :
    (r.stirring.iterate done left).Respects Iterated := by
  have attempted : ∀ i, (r.stirring.attempt i).Respects Iterated := by
    intro i
    unfold attempt
    have asked : r.stirring.interrupted.Respects (Recorded.Adds Stir.InIteration) :=
      Act.Respects.unrecorded _ _
    refine (onSubject_iterated asked).bind fun b => Act.Respects.ite ?_ ?_
    · exact (Act.Respects.log _ _ _ _).bind fun _ => Act.Respects.pure _
    · refine (Act.Respects.log _ _ _ _).bind fun _ => ?_
      refine Act.Respects.bind (r.iteration_iterated i) fun res => ?_
      cases res with
      | error e => exact (Act.Respects.log _ _ _ _).bind fun _ => Act.Respects.pure _
      | ok _ => exact (onProgress_iterated _).bind fun _ => Act.Respects.pure _
  unfold iterate
  refine (Act.Respects.first (fun i => ?_) _ _).bind fun _ => Act.Respects.pure _
  exact (attempted i).bind fun _ => Act.Respects.pure _

end Iterations

/-! ## The record of a run -/

/-- Between the two worlds such things happen as `G` allows, and they end in the phase of the second
world. -/
def Grew (G : List Stir → Phase → Prop) (w w₁ : World (Recorded Stir σ)) : Prop :=
  ∃ more, w₁.subject.calls = w.subject.calls ++ more ∧ G more w₁.phase

lemma Begun.isOpen {before after : Phase} {log : List Stir} (h : Begun before log after) :
    Open after := by
  cases h <;> exact ⟨nofun, nofun⟩

section Runs

variable (r : Runner κ σ)

lemma tearDownBy_yields (w : World (Recorded Stir σ)) (h : Open w.phase) :
    (r.stirring.tearDownBy enterStirring).Yields w (fun _ => Grew (Closing w.phase) w)
      fun _ => Grew (Closing w.phase) w := by
  unfold tearDownBy
  rw [Act.yields_bind, Act.yields_world]
  split
  · exact absurd ‹_› h.2
  · rw [if_pos h.1, Act.yields_bind, yields_onSubject]
    refine stirring_tearDown_yields (fun s => ?_) fun m s => ?_
    · exact ⟨_, List.append_assoc _ _ _, .done⟩
    · exact ⟨_, rfl, .panicked m⟩

/-- What has `Begun` is closed by the tear-down, and the whole is a run (`RunStirs`). -/
lemma close_yields {w w₁ : World (Recorded Stir σ)} (h : Grew (Begun w.phase) w w₁) :
    (r.stirring.tearDownBy enterStirring).Yields w₁ (fun _ => Grew (RunStirs w.phase) w)
      fun _ => Grew (RunStirs w.phase) w := by
  obtain ⟨log, hlog, begun⟩ := h
  have closed : ∀ w₂, Grew (Closing w₁.phase) w₁ w₂ → Grew (RunStirs w.phase) w w₂ := by
    rintro w₂ ⟨more, hmore, closing⟩
    exact ⟨log ++ more, by rw [hmore, hlog, List.append_assoc], .closed begun closing⟩
  exact (r.tearDownBy_yields w₁ begun.isOpen).mono (fun _ => closed) fun _ => closed

lemma giveUpBy_yields {α : Type} (what : String) (e : RunError)
    {w w₁ : World (Recorded Stir σ)} (h : Grew (Begun w.phase) w w₁) :
    Try.Yields
      (r.stirring.giveUpBy enterStirring what e : Try κ (World (Recorded Stir σ)) RunError α) w₁
      (fun _ _ => False) (fun _ => Grew (RunStirs w.phase) w)
      fun _ => Grew (RunStirs w.phase) w := by
  unfold giveUpBy
  rw [Try.yields_bind, Try.yields_log, Try.yields_bind, Try.yields_lift]
  exact (r.close_yields h).mono (fun _ _ h₁ => h₁) fun _ _ h₁ => h₁

/-- From the first world to the second, the subject was set up and iterations were begun
(`setUpAnd`). -/
def Iterating (w w₁ : World (Recorded Stir σ)) : Prop :=
  w₁.phase = .iterating ∧ ∃ calls, (∀ s ∈ calls, Stir.InIteration s) ∧
    w₁.subject.calls = w.subject.calls ++ setUpAnd w.phase calls

lemma Iterating.begun {w w₁ : World (Recorded Stir σ)} (h : Iterating w w₁) :
    Grew (Begun w.phase) w w₁ := by
  obtain ⟨hphase, calls, inIteration, hcalls⟩ := h
  rw [Grew, hphase]
  exact ⟨_, hcalls, .iterating calls inIteration⟩

/-- A panic leaves what has `Begun` as it is, and that is a run as well (`RunStirs.left`). -/
lemma Grew.left {w w₁ : World (Recorded Stir σ)} (h : Grew (Begun w.phase) w w₁) :
    Grew (RunStirs w.phase) w w₁ := by
  obtain ⟨log, hlog, begun⟩ := h
  exact ⟨log, hlog, .left begun⟩

lemma processResultsBy_yields {w w₁ : World (Recorded Stir σ)} (h : Iterating w w₁) :
    Try.Yields (r.stirring.processResultsBy enterStirring) w₁
      (fun _ => Grew (Begun w.phase) w) (fun _ => Grew (RunStirs w.phase) w)
      fun _ => Grew (RunStirs w.phase) w := by
  obtain ⟨hphase, calls, inIteration, hcalls⟩ := h
  have processed : ∀ (ending : Subject.Ending) (s : σ),
      Grew (Begun w.phase) w
        { w₁ with
          phase := .processResults
          subject := ⟨w₁.subject.calls ++ [.entered w₁.phase .processResults] ++
            [.called ⟨.processResults, ending⟩], s⟩ } := by
    intro ending s
    refine ⟨_, ?_, .processing calls inIteration ending⟩
    rw [hcalls, hphase]
    simp only [List.append_assoc, List.cons_append, List.nil_append]
  unfold processResultsBy
  rw [Try.yields_bind, Try.yields_lift, enterStirring, Act.yields_update, Try.yields_bind,
    Try.yields_attempt, yields_trySubject]
  refine yields_stirring (fun s => ?_) (fun e s => ?_) fun m s => ?_
  · exact processed _ s
  · exact (r.giveUpBy_yields _ e (processed _ s)).mono (fun _ _ h => h.elim) (fun _ _ h => h)
      fun _ _ h => h
  · exact (processed _ s).left

lemma runBy_yields (w : World (Recorded Stir σ)) :
    Try.Yields (r.stirring.runBy enterStirring) w (fun _ => Grew (RunStirs w.phase) w)
      (fun _ => Grew (RunStirs w.phase) w) fun _ => Grew (RunStirs w.phase) w := by
  have setUp : ∀ (ending : Subject.Ending) (s : σ),
      Grew (Begun w.phase) w
        { w with
          phase := .setUp
          subject := ⟨w.subject.calls ++ [.entered w.phase .setUp] ++
            [.called ⟨.setUp, ending⟩], s⟩ } :=
    fun ending s => ⟨_, List.append_assoc _ _ _, .settingUp ending⟩
  unfold runBy
  rw [Try.yields_bind, Try.yields_lift, enterStirring, Act.yields_update, Try.yields_bind,
    Try.yields_attempt, yields_trySubject]
  refine yields_stirring (fun s => ?_) (fun e s => ?_) fun m s => (setUp _ s).left
  · rw [Try.yields_bind, Try.yields_lift, enterStirring, Act.yields_update, Try.yields_bind,
      Try.yields_lift]
    -- The iterations add calls and leave the phase alone.
    have iterating : ∀ w₁ : World (Recorded Stir σ),
        Iterated
          { w with
            phase := .iterating
            subject := ⟨w.subject.calls ++ [.entered w.phase .setUp] ++
              [.called ⟨.setUp, .done⟩] ++ [.entered .setUp .iterating], s⟩ } w₁ →
        Iterating w w₁ := by
      rintro w₁ ⟨hphase, calls, hcalls, inIteration⟩
      refine ⟨hphase, calls, inIteration, ?_⟩
      rw [hcalls, setUpAnd]
      simp only [List.append_assoc, List.cons_append, List.nil_append]
    refine ((r.iterate_iterated 0 _).yields _).imp (fun ended w₁ h₁ => ?_)
      (fun m w₁ h₁ => (iterating w₁ h₁).begun.left) fun _ _ _ => trivial
    obtain ⟨completed, failure⟩ := ended
    have report : ∀ w₂ : World (Recorded Stir σ), Grew (Begun w.phase) w w₂ →
        Try.Yields
          (do
            Try.lift (r.stirring.tearDownBy enterStirring)
            let w ← Try.world
            pure ⟨completed, failure.map fun _ => completed, failure, w.phase⟩ :
            Try κ (World (Recorded Stir σ)) RunError Report) w₂
          (fun _ => Grew (RunStirs w.phase) w) (fun _ => Grew (RunStirs w.phase) w)
          fun _ => Grew (RunStirs w.phase) w := by
      intro w₂ grew
      rw [Try.yields_bind, Try.yields_lift]
      refine (r.close_yields grew).mono (fun _ w₃ h₃ => ?_) fun _ _ h₃ => h₃
      rw [Try.yields_bind, Try.yields_world, Try.yields_pure]
      exact h₃
    cases failure with
    | some e => exact report w₁ (iterating w₁ h₁).begun
    | none =>
      dsimp only
      rw [Option.isNone_none, if_pos rfl, Try.yields_bind]
      exact (r.processResultsBy_yields (iterating w₁ h₁)).mono (fun _ => report)
        (fun _ _ h => h) fun _ _ h => h
  · exact (r.giveUpBy_yields _ e (setUp _ s)).mono (fun _ _ h => h.elim) (fun _ _ h => h)
      fun _ _ h => h

end Runs

/-! ## The record of a lifetime -/

section Lifetimes

variable {r : Runner κ σ} (returns : r.Returns) (w : World (Recorded Stir σ))
include returns

lemma dropStirs : Grew (DropStirs w.phase) w (r.stirring.tearDownBy enterStirring w).world := by
  have opened (w : World (Recorded Stir σ)) (h : Open w.phase) :
      (r.stirring.tearDownBy enterStirring).Yields w (fun _ => Grew (DropStirs w.phase) w)
        fun _ => Grew (DropStirs w.phase) w := by
    have closed : ∀ w₁, Grew (Closing w.phase) w w₁ → Grew (DropStirs w.phase) w w₁ := by
      rintro w₁ ⟨more, hmore, closing⟩
      exact ⟨more, hmore, .closed h closing⟩
    exact (r.tearDownBy_yields w h).mono (fun _ => closed) fun _ => closed
  have dropped : (r.stirring.tearDownBy enterStirring).Yields w
      (fun _ => Grew (DropStirs w.phase) w) fun _ => Grew (DropStirs w.phase) w := by
    obtain ⟨phase, progress, s⟩ := w
    cases phase with
    | created => exact ⟨_, rfl, .created⟩
    | tornDown => exact ⟨[], (List.append_nil _).symm, .tornDown⟩
    | setUp => exact opened ⟨.setUp, progress, s⟩ ⟨nofun, nofun⟩
    | iterating => exact opened ⟨.iterating, progress, s⟩ ⟨nofun, nofun⟩
    | processResults => exact opened ⟨.processResults, progress, s⟩ ⟨nofun, nofun⟩
  have back : (r.stirring.tearDownBy enterStirring).Returns :=
    Act.Returns.inherited returns.drop (r.stirring_over.tearDownBy_over enterStirring_over)
  exact back.ends (Q := fun _ w₁ => Grew (DropStirs w.phase) w w₁) dropped

lemma lifeStirs (runs : Nat) :
    Grew (LifeStirs runs w.phase) w (r.stirring.lifetimeBy enterStirring runs w).world := by
  induction runs generalizing w with
  | zero =>
    obtain ⟨log, hlog, dropped⟩ := dropStirs returns w
    exact ⟨log, hlog, .dropped dropped⟩
  | succ runs ih =>
    have back : (r.stirring.runBy enterStirring).result.Returns :=
      Act.Returns.inherited returns.run (r.stirring_over.runBy_over enterStirring_over)
    rw [lifetimeBy, Act.catching_bind_world back]
    have ran : Grew (RunStirs w.phase) w ((r.stirring.runBy enterStirring).result w).world :=
      back.ends (Q := fun _ w₁ => Grew (RunStirs w.phase) w w₁)
        (Try.yields_result.2 (r.runBy_yields w))
    obtain ⟨log, hlog, run⟩ := ran
    obtain ⟨more, hmore, rest⟩ := ih ((r.stirring.runBy enterStirring).result w).world
    exact ⟨log ++ more, by rw [hmore, hlog, List.append_assoc], .run run rest⟩

end Lifetimes

end Runner

end StartupBench
