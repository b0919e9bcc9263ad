import StartupBench.Proofs.Act.Returns
import StartupBench.Runner.Basic

/-!
# Proof outlines of a run

A run takes its subject through many calls, and what is to be proved of all runs is always of the
same kind: something holds before and after each call, and therefore at the end.  A `RunOutline`
says what holds at which point of a run and proves it call by call; `RunOutline.run_yields` is the
conclusion for the run.  An `Outline` follows the whole life of a run, from the first call to the
time when it is let go of, and `Outline.life_yields` is the conclusion for that.

How a run went up to its tear-down is its `Course`.  A call that fails or panics, a user who
interrupts and a wait that takes too long all end the iterations with a course of their own, and the
course determines what the run answers (`Course.outcome`).

## Control that does not come back

A call may stop for a reason of its own, and a panic during a panic aborts the process.  What holds
then is the assertion `RunOutline.halted` of an outline.  It says nothing unless an outline asks for
more.  For runs whose calls come back (`Runner.Returns`) nothing halts, and `RunOutline.total` makes
an outline in which `halted` is false of the same assertions.

The walk along the run, with its loops and its ways out, is made once, here.  Every theorem about a
whole run in this development supplies an outline: the calls of a run (`Runner.callsOutline`), the
life of a launched application, the ledger, the output, the preload setting and the traces.
-/

namespace StartupBench.Runner

variable {κ σ : Type}

/-- How a run went, up to its tear-down.  What follows is determined by it (`Course.outcome`). -/
inductive Course where
  | setUpFailed (e : RunError)
  /-- So many iterations were completed, and the next one was not. -/
  | brokenOff (completed : Nat) (e : RunError)
  | resultsFailed (e : RunError)
  | finished
  /-- A call panicked. -/
  | wrecked (message : String)

/-- What a run of so many iterations comes to: errors of setting up and of processing results are
passed on, and an iteration that broke off is in the report. -/
def Course.outcome (iterations : Nat) : Course → Outcome κ (Except RunError Report)
  | setUpFailed e | resultsFailed e => .returned (.error e)
  | brokenOff completed e => .returned (.ok ⟨completed, some completed, some e, .tornDown⟩)
  | finished => .returned (.ok ⟨iterations, none, none, .tornDown⟩)
  | wrecked message => .panicked message

lemma Course.outcome_ne_stopped {iterations : Nat} (c : Course) {k : Stop κ} :
    c.outcome iterations ≠ .stopped k := by
  cases c <;> simp [Course.outcome]

/-- A run from its first call to the time when it is let go of (`Runner.drop`).  The drop runs after
the run and during a panic of it, as a release does (`Act.ensuring`). -/
def life (r : Runner κ σ) : Act κ (World σ) (Except RunError Report) :=
  Act.ensuring r.run.result r.drop

/-- The world of a run that has not begun: nothing was entered, and the subject has the world `w`.
-/
def World.fresh (progress : Option Progress) (w : σ) : World σ := { progress, subject := w }

/-- What holds at which point of a run, and why.  The first half names an assertion for each point,
and the second half shows that each call leads from one to the next. -/
structure RunOutline (r : Runner κ σ) where
  start : σ → Prop
  /-- So many iterations are complete. -/
  ready : Nat → σ → Prop
  /-- The user was asked before the next iteration and does not want to stop. -/
  checked : Nat → σ → Prop := ready
  prepared : Nat → σ → Prop
  /-- The application was launched and looked for so often in vain. -/
  waiting : Nat → Nat → σ → Prop
  running : Nat → σ → Prop
  worked : Nat → σ → Prop
  quiet : Nat → σ → Prop
  /-- Nothing is left but to tear down. -/
  closing : Course → σ → Prop
  /-- The subject is torn down. -/
  gone : Course → σ → Prop
  /-- A call that tears down has panicked. -/
  torn : σ → Prop
  /-- Control does not come back from a call. -/
  halted : Stop κ → σ → Prop := fun _ _ => True
  setUp : ∀ w, start w → Try.Yields r.subject.setUp w (fun _ => ready 0)
    (fun e => closing (.setUpFailed e)) (fun m => closing (.wrecked m)) halted
  check : ∀ i w, i < r.iterations → ready i w → r.interrupted.Yields w
    (fun b => if b then closing (.brokenOff i .interrupted) else checked i)
    (fun m => closing (.wrecked m)) halted
  prepare : ∀ i w, i < r.iterations → checked i w → Try.Yields (r.subject.prepare i) w
    (fun _ => prepared i) (fun e => closing (.brokenOff i e)) (fun m => closing (.wrecked m)) halted
  launch : ∀ i w, i < r.iterations → prepared i w → Try.Yields r.subject.launch w
    (fun _ => waiting i 0) (fun e => closing (.brokenOff i e)) (fun m => closing (.wrecked m))
    halted
  look : ∀ i n w, i < r.iterations → waiting i n w → r.subject.isRunning.Yields w
    (fun b => if b then running i else waiting i (n + 1)) (fun m => closing (.wrecked m)) halted
  recheck : ∀ i n w, i < r.iterations → waiting i (n + 1) w → r.interrupted.Yields w
    (fun b => if b then closing (.brokenOff i .interrupted) else waiting i (n + 1))
    (fun m => closing (.wrecked m)) halted
  pause : ∀ i n w, i < r.iterations → waiting i (n + 1) w → (r.sleep r.patience.interval).Yields w
    (fun _ => waiting i (n + 1)) (fun m => closing (.wrecked m)) halted
  timeout : ∀ i w, i < r.iterations → waiting i r.patience.looks w →
    closing (.brokenOff i (.launchTimeout r.patience.looks)) w
  work : ∀ i w, i < r.iterations → running i w → Try.Yields (r.subject.work i) w
    (fun _ => worked i) (fun e => closing (.brokenOff i e)) (fun m => closing (.wrecked m)) halted
  shutDown : ∀ i w, i < r.iterations → worked i w → Try.Yields r.subject.shutDown w
    (fun _ => quiet i) (fun e => closing (.brokenOff i e)) (fun m => closing (.wrecked m)) halted
  conclude : ∀ i w, i < r.iterations → quiet i w → Try.Yields (r.subject.conclude i) w
    (fun _ => ready (i + 1)) (fun e => closing (.brokenOff i e)) (fun m => closing (.wrecked m))
    halted
  processResults : ∀ w, ready r.iterations w → Try.Yields r.subject.processResults w
    (fun _ => closing .finished) (fun e => closing (.resultsFailed e))
    (fun m => closing (.wrecked m)) halted
  tearDown : ∀ c w, closing c w →
    r.subject.tearDown.Yields w (fun _ => gone c) (fun _ => torn) halted

/-- What holds until the run is let go of.  A tear-down that panicked is made once more by
`Runner.drop`, and `torn` has to hold after that as well. -/
structure Outline (r : Runner κ σ) extends RunOutline r where
  tearDownAgain : ∀ w, torn w →
    r.subject.tearDown.Yields w (fun _ => torn) (fun _ => torn) halted

/-! ## Calls that come back -/

/-- Every call of the run comes back (`Act.Returns`): a step may answer anything, fail and panic,
and it does not keep control for good. -/
structure Returns (r : Runner κ σ) : Prop where
  setUp : Try.Returns r.subject.setUp
  prepare : ∀ i, Try.Returns (r.subject.prepare i)
  launch : Try.Returns r.subject.launch
  isRunning : r.subject.isRunning.Returns
  work : ∀ i, Try.Returns (r.subject.work i)
  shutDown : Try.Returns r.subject.shutDown
  conclude : ∀ i, Try.Returns (r.subject.conclude i)
  processResults : Try.Returns r.subject.processResults
  tearDown : r.subject.tearDown.Returns
  interrupted : r.interrupted.Returns
  sleep : ∀ time, (r.sleep time).Returns

/-- The outline of a run that comes back, in which nothing halts: the same assertions, with `halted`
false of every world. -/
def RunOutline.total {r : Runner κ σ} (o : RunOutline r) (returns : r.Returns) : RunOutline r :=
  { o with
    halted := fun _ _ => False
    setUp := fun w h => returns.setUp.yields (o.setUp w h)
    check := fun i w hi h => returns.interrupted.yields (o.check i w hi h)
    prepare := fun i w hi h => (returns.prepare i).yields (o.prepare i w hi h)
    launch := fun i w hi h => returns.launch.yields (o.launch i w hi h)
    look := fun i n w hi h => returns.isRunning.yields (o.look i n w hi h)
    recheck := fun i n w hi h => returns.interrupted.yields (o.recheck i n w hi h)
    pause := fun i n w hi h => (returns.sleep _).yields (o.pause i n w hi h)
    work := fun i w hi h => (returns.work i).yields (o.work i w hi h)
    shutDown := fun i w hi h => returns.shutDown.yields (o.shutDown i w hi h)
    conclude := fun i w hi h => (returns.conclude i).yields (o.conclude i w hi h)
    processResults := fun w h => returns.processResults.yields (o.processResults w h)
    tearDown := fun c w h => returns.tearDown.yields (o.tearDown c w h) }

/-- The outline of a run that comes back, up to the time when it is let go of, with the same
assertions. -/
def Outline.total {r : Runner κ σ} (o : Outline r) (returns : r.Returns) : Outline r where
  toRunOutline := o.toRunOutline.total returns
  tearDownAgain w h := returns.tearDown.yields (o.tearDownAgain w h)

/-! ## Small steps -/

section Steps

variable {α : Type} {w : World σ} {P : String → World σ → Prop}
  {H : Stop κ → World σ → Prop}

@[simp] lemma yields_onSubject {x : Act κ σ α} {R : α → World σ → Prop} :
    (onSubject x).Yields w R P H ↔
      x.Yields w.subject (fun a s => R a { w with subject := s })
        (fun m s => P m { w with subject := s }) fun k s => H k { w with subject := s } :=
  Act.yields_within

@[simp] lemma yields_trySubject {x : Try κ σ RunError α} {R : α → World σ → Prop}
    {E : RunError → World σ → Prop} :
    Try.Yields (trySubject x) w R E P H ↔
      Try.Yields x w.subject (fun a s => R a { w with subject := s })
        (fun e s => E e { w with subject := s }) (fun m s => P m { w with subject := s })
        fun k s => H k { w with subject := s } := by
  rw [trySubject, Try.yields_mk, yields_onSubject, Try.yields_run]

@[simp] lemma yields_enter {phase : Phase} {R : Unit → World σ → Prop} :
    (enter phase : Act κ (World σ) Unit).Yields w R P H ↔ R () { w with phase } := Iff.rfl

@[simp] lemma yields_onProgress {f : Progress → Progress} {R : Unit → World σ → Prop} :
    (onProgress f : Act κ (World σ) Unit).Yields w R P H ↔
      R () { w with progress := w.progress.map f } := Iff.rfl

@[simp] lemma yields_stage {i : Nat} {text : String} {R : Unit → World σ → Prop}
    {E : RunError → World σ → Prop} :
    Try.Yields (stage i text : Try κ (World σ) RunError Unit) w R E P H ↔
      R () { w with progress := w.progress.map fun p => p.setStage i text } := by
  rw [stage, Try.yields_exceptLift, yields_onProgress]

end Steps

/-- The run is in a phase, and `I` holds of the world of its subject. -/
def At (phase : Phase) (I : σ → Prop) (w : World σ) : Prop := w.phase = phase ∧ I w.subject

/-- In a phase in which there is something to tear down: the run was begun, and it has not come to
`Phase.tornDown`. -/
def Open (phase : Phase) : Prop := phase ≠ .created ∧ phase ≠ .tornDown

namespace RunOutline

variable {r : Runner κ σ} (o : RunOutline r)

/-- Control does not come back from a call of the run, and the outline's `halted` holds of the world
of the subject. -/
def Halted (k : Stop κ) (w : World σ) : Prop := o.halted k w.subject

/-! ## One iteration -/

/-- Looking for the application (`Patience.await`) ends with its running, or the iteration is over:
nothing runs in time, the user wants to stop, or a look panics. -/
lemma await_yields (i : Nat) (w : σ) (hi : i < r.iterations) (h : o.waiting i 0 w) :
    Try.Yields (r.patience.await r.subject.isRunning r.interrupted r.sleep) w
      (fun _ => o.running i) (fun e => o.closing (.brokenOff i e))
      (fun m => o.closing (.wrecked m)) o.halted := by
  unfold Patience.await Patience.poll
  rw [Try.yields_mk, Act.yields_bind]
  refine Act.yields_first (o.waiting i) r.patience.looks 0 w h (fun n w₁ _ _ hw₁ => ?_)
    fun w₁ hw₁ => ?_
  · unfold Patience.look
    rw [Act.yields_bind]
    refine (o.look i n w₁ hi hw₁).mono (fun b w₂ hw₂ => ?_) fun _ _ hm => hm
    cases b with
    | true =>
      rw [if_pos rfl, Act.yields_bind, Act.yields_log]
      exact hw₂
    | false =>
      rw [if_neg Bool.false_ne_true, Act.yields_bind]
      refine (o.recheck i n w₂ hi hw₂).mono (fun b w₃ hw₃ => ?_) fun _ _ hm => hm
      cases b with
      | true => exact hw₃
      | false =>
        rw [if_neg Bool.false_ne_true, Act.yields_bind]
        exact o.pause i n w₃ hi hw₃
  · rw [Nat.zero_add] at hw₁
    exact o.timeout i w₁ hi hw₁

lemma iteration_yields (i : Nat) (w : World σ) (hi : i < r.iterations)
    (h : At .iterating (o.checked i) w) :
    Try.Yields (r.iteration i) w (fun _ => At .iterating (o.ready (i + 1)))
      (fun e => At .iterating (o.closing (.brokenOff i e)))
      (fun m => At .iterating (o.closing (.wrecked m))) o.Halted := by
  obtain ⟨hphase, hready⟩ := h
  unfold iteration
  simp only [Try.yields_bind, yields_stage, yields_trySubject]
  refine (o.prepare i w.subject hi hready).mono (fun _ w₁ h₁ => ?_)
    (fun _ _ h => ⟨hphase, h⟩) fun _ _ h => ⟨hphase, h⟩
  refine (o.launch i w₁ hi h₁).mono (fun _ w₂ h₂ => ?_)
    (fun _ _ h => ⟨hphase, h⟩) fun _ _ h => ⟨hphase, h⟩
  refine (o.await_yields i w₂ hi h₂).mono (fun _ w₃ h₃ => ?_)
    (fun _ _ h => ⟨hphase, h⟩) fun _ _ h => ⟨hphase, h⟩
  refine (o.work i w₃ hi h₃).mono (fun _ w₄ h₄ => ?_)
    (fun _ _ h => ⟨hphase, h⟩) fun _ _ h => ⟨hphase, h⟩
  refine (o.shutDown i w₄ hi h₄).mono (fun _ w₅ h₅ => ?_)
    (fun _ _ h => ⟨hphase, h⟩) fun _ _ h => ⟨hphase, h⟩
  exact (o.conclude i w₅ hi h₅).mono (fun _ _ h => ⟨hphase, h⟩)
    (fun _ _ h => ⟨hphase, h⟩) fun _ _ h => ⟨hphase, h⟩

lemma attempt_yields (i : Nat) (w : World σ) (hi : i < r.iterations)
    (h : At .iterating (o.ready i) w) :
    (r.attempt i).Yields w
      (fun failure w₁ => match failure with
        | some e => At .iterating (o.closing (.brokenOff i e)) w₁
        | none => At .iterating (o.ready (i + 1)) w₁)
      (fun m => At .iterating (o.closing (.wrecked m))) o.Halted := by
  unfold attempt
  rw [Act.yields_bind, yields_onSubject]
  refine (o.check i w.subject hi h.2).mono (fun b w₁ h₁ => ?_) fun _ _ hm => ⟨h.1, hm⟩
  cases b with
  | true =>
    rw [if_pos rfl, Act.yields_bind, Act.yields_log]
    exact ⟨h.1, h₁⟩
  | false =>
    rw [if_neg Bool.false_ne_true, Act.yields_bind, Act.yields_log, Act.yields_bind,
      Try.yields_result]
    refine (o.iteration_yields i { w with subject := w₁ } hi ⟨h.1, h₁⟩).mono
      (fun _ w₂ h₂ => ?_) (fun e w₂ h₂ => ?_) fun _ _ hm => hm
    · rw [Act.yields_bind, yields_onProgress]
      exact h₂
    · rw [Act.yields_bind, Act.yields_log]
      exact h₂

/-! ## All iterations -/

lemma iterate_yields (w : World σ) (h : At .iterating (o.ready 0) w) :
    (r.iterate 0 r.iterations).Yields w
      (fun ended w₁ => match ended.2 with
        | some e => ended.1 < r.iterations ∧ At .iterating (o.closing (.brokenOff ended.1 e)) w₁
        | none => ended.1 = r.iterations ∧ At .iterating (o.ready r.iterations) w₁)
      (fun m => At .iterating (o.closing (.wrecked m))) o.Halted := by
  unfold iterate
  rw [Act.yields_bind]
  refine Act.yields_first (fun i => At .iterating (o.ready i)) r.iterations 0 w h
    (fun i w₁ _ hi hw₁ => ?_) fun w₁ hw₁ => ?_
  · rw [Nat.zero_add] at hi
    rw [Act.yields_bind]
    refine (o.attempt_yields i w₁ hi hw₁).mono (fun failure w₂ hw₂ => ?_) fun _ _ hm => hm
    cases failure with
    | some e => exact ⟨hi, hw₂⟩
    | none => exact hw₂
  · rw [Nat.zero_add] at hw₁
    exact ⟨Nat.zero_add _, hw₁⟩

/-! ## The end of a run -/

/-- The subject is torn down once, and after that the phase says so.  A tear-down that panics leaves
the phase as it was. -/
lemma tearDown_yields (c : Course) (w : World σ) (hphase : Open w.phase)
    (h : o.closing c w.subject) :
    r.tearDown.Yields w (fun _ => At .tornDown (o.gone c)) (fun _ => At w.phase o.torn)
      o.Halted := by
  unfold Runner.tearDown
  rw [Act.yields_bind, Act.yields_world]
  split
  · exact absurd ‹_› hphase.2
  · rw [if_pos hphase.1, Act.yields_bind, yields_onSubject]
    refine (o.tearDown c w.subject h).mono (fun _ s hs => ?_) fun _ s hs => ⟨rfl, hs⟩
    rw [Act.yields_bind, yields_enter, yields_onProgress]
    exact ⟨rfl, hs⟩

/-- A run that is left by a panic is in an `Open` phase and still has to be torn down, unless
tearing down is what panicked. -/
def Left (w : World σ) (m : String) : Prop :=
  Open w.phase ∧ (o.closing (.wrecked m) w.subject ∨ o.torn w.subject)

lemma Left.of_at {phase : Phase} (hphase : Open phase) {m : String} {w : World σ}
    (h : At phase (o.closing (.wrecked m)) w) : o.Left w m :=
  ⟨h.1.symm ▸ hphase, .inl h.2⟩

lemma giveUp_yields {α : Type} (c : Course) (what : String) (e : RunError) (w : World σ)
    (hphase : Open w.phase) (h : o.closing c w.subject) :
    Try.Yields (r.giveUp what e : Try κ (World σ) RunError α) w (fun _ _ => False)
      (fun e' w₁ => e' = e ∧ At .tornDown (o.gone c) w₁) (fun m w₁ => o.Left w₁ m) o.Halted := by
  unfold giveUp
  rw [Try.yields_bind, Try.yields_log, Try.yields_bind, Try.yields_lift]
  refine (o.tearDown_yields c w hphase h).mono (fun _ w₁ h₁ => ⟨rfl, h₁⟩) fun m w₁ h₁ => ?_
  exact ⟨h₁.1.symm ▸ hphase, .inr h₁.2⟩

lemma processResults_yields (w : World σ) (h : o.ready r.iterations w.subject) :
    Try.Yields r.processResults w (fun _ => At .processResults (o.closing .finished))
      (fun e => At .tornDown (o.gone (.resultsFailed e))) (fun m w₁ => o.Left w₁ m)
      o.Halted := by
  have hphase : Open .processResults := ⟨by simp, by simp⟩
  unfold Runner.processResults
  rw [Try.yields_bind, Try.yields_lift, yields_enter, Try.yields_bind, Try.yields_attempt,
    yields_trySubject]
  refine (o.processResults w.subject h).mono (fun _ s hs => ⟨rfl, hs⟩) (fun e s hs => ?_)
    fun m s hs => Left.of_at o hphase ⟨rfl, hs⟩
  refine (o.giveUp_yields (.resultsFailed e) _ e _ hphase hs).mono (fun _ _ hf => hf.elim)
    (fun e' w₁ h₁ => ?_) fun _ _ hm => hm
  rw [h₁.1]
  exact h₁.2

/-- The run answers as its `Course` says, and its subject is torn down. -/
def Answered (res : Except RunError Report) (w : World σ) : Prop :=
  ∃ c : Course, c.outcome r.iterations = (.returned res : Outcome κ (Except RunError Report)) ∧
    At .tornDown (o.gone c) w

lemma report_yields (c : Course) (completed : Nat) (failure : Option RunError) (w : World σ)
    (hphase : Open w.phase) (h : o.closing c w.subject)
    (hc : c.outcome r.iterations = (.returned (.ok
      ⟨completed, failure.map fun _ => completed, failure, .tornDown⟩) : Outcome κ _)) :
    Try.Yields
      (do
        Try.lift r.tearDown
        let w ← Try.world
        pure
          { completed
            failed := failure.map fun _ => completed
            error := failure
            phase := w.phase } : Try κ (World σ) RunError Report)
      w (fun report => o.Answered (.ok report)) (fun e => o.Answered (.error e))
      (fun m w₁ => o.Left w₁ m) o.Halted := by
  rw [Try.yields_bind, Try.yields_lift]
  refine (o.tearDown_yields c w hphase h).mono (fun _ w₁ h₁ => ?_) fun m w₁ h₁ => ?_
  · rw [Try.yields_bind, Try.yields_world, Try.yields_pure, h₁.1]
    exact ⟨c, hc, h₁⟩
  · exact ⟨h₁.1.symm ▸ hphase, .inr h₁.2⟩

/-- A run answers as its `Course` says, whichever phase it begins in.  It may also be left by a
panic (`Left`), or not come back. -/
lemma run_yields (w : World σ) (h : o.start w.subject) :
    Try.Yields r.run w (fun report => o.Answered (.ok report))
      (fun e => o.Answered (.error e)) (fun m w₁ => o.Left w₁ m) o.Halted := by
  have hset : Open .setUp := ⟨by simp, by simp⟩
  have hiterating : Open .iterating := ⟨by simp, by simp⟩
  have hresults : Open .processResults := ⟨by simp, by simp⟩
  unfold run
  rw [Try.yields_bind, Try.yields_lift, yields_enter, Try.yields_bind, Try.yields_attempt,
    yields_trySubject]
  refine (o.setUp w.subject h).mono (fun _ s hs => ?_) (fun e s hs => ?_)
    fun m s hs => Left.of_at o hset ⟨rfl, hs⟩
  · rw [Try.yields_bind, Try.yields_lift, yields_enter, Try.yields_bind, Try.yields_lift]
    refine (o.iterate_yields _ ⟨rfl, hs⟩).mono (fun ended w₁ h₁ => ?_)
      fun m _ hm => Left.of_at o hiterating hm
    obtain ⟨completed, failure⟩ := ended
    cases failure with
    | some e =>
      obtain ⟨-, hphase, hover⟩ := h₁
      exact o.report_yields (.brokenOff completed e) completed (some e) w₁
        (hphase.symm ▸ hiterating) hover rfl
    | none =>
      obtain ⟨rfl, hphase, hready⟩ := h₁
      dsimp only
      rw [Option.isNone_none, if_pos rfl, Try.yields_bind]
      refine (o.processResults_yields w₁ hready).mono (fun _ w₂ h₂ => ?_) (fun e w₂ h₂ => ?_)
        fun _ _ hm => hm
      · exact o.report_yields .finished r.iterations none w₂ (h₂.1.symm ▸ hresults) h₂.2 rfl
      · exact ⟨.resultsFailed e, rfl, h₂⟩
  · refine (o.giveUp_yields (.setUpFailed e) _ e _ hset hs).mono (fun _ _ hf => hf.elim)
      (fun e' w₁ h₁ => ?_) fun _ _ hm => hm
    exact ⟨.setUpFailed e, by rw [h₁.1]; rfl, h₁.2⟩

end RunOutline

namespace Outline

variable {r : Runner κ σ} (o : Outline r)

lemma tearDown_yields_of_torn (w : World σ) (hphase : Open w.phase) (h : o.torn w.subject) :
    r.tearDown.Yields w (fun _ w₁ => o.torn w₁.subject) (fun _ w₁ => o.torn w₁.subject)
      o.Halted := by
  unfold Runner.tearDown
  rw [Act.yields_bind, Act.yields_world]
  split
  · exact h
  · rw [if_pos hphase.1, Act.yields_bind, yields_onSubject]
    exact (o.tearDownAgain w.subject h).mono (fun _ s hs => hs) fun _ s hs => hs

/-- **The life of a run.**  From a start of the outline the run comes to what its `Course` says, and
its subject is torn down when it is let go of, unless tearing down itself panicked.  If control does
not come back, that is so of a call of the run, or the process was aborted: the subject was torn
down during a panic, and that panicked too. -/
theorem life_yields (progress : Option Progress) (w : σ) (h : o.start w) :
    r.life.Yields (World.fresh progress w)
      (fun res w₁ => ∃ c : Course, c.outcome r.iterations = (.returned res : Outcome κ _) ∧
        o.gone c w₁.subject)
      (fun m w₁ => o.gone (.wrecked m) w₁.subject ∨ o.torn w₁.subject)
      fun k w₁ => o.halted k w₁.subject ∨ k = .aborted ∧ o.torn w₁.subject := by
  -- After an answer there is nothing left to tear down.
  have after : ∀ (res : Except RunError Report) (w₁ : World σ), o.Answered res w₁ →
      r.drop.Yields w₁
        (fun _ w₂ => ∃ c : Course, c.outcome r.iterations = (.returned res : Outcome κ _) ∧
          o.gone c w₂.subject)
        (fun m w₂ => o.gone (.wrecked m) w₂.subject ∨ o.torn w₂.subject)
        fun k w₂ => o.halted k w₂.subject ∨ k = .aborted ∧ o.torn w₂.subject := by
    intro res w₁ h₁
    obtain ⟨c, hc, hphase, hgone⟩ := h₁
    unfold drop Runner.tearDown
    rw [Act.yields_bind, Act.yields_world, hphase]
    exact ⟨c, hc, hgone⟩
  unfold life
  rw [Act.yields_ensuring, Try.yields_result]
  refine (o.run_yields (.fresh progress w) h).imp (fun report w₁ h₁ => after _ w₁ h₁)
    (fun e w₁ h₁ => after _ w₁ h₁) (fun m w₁ h₁ => ?_) fun _ _ => .inl
  -- A panic of the tear-down meets the panic that has left the run.
  obtain ⟨hopen, hover | htorn⟩ := h₁
  · exact (o.tearDown_yields (.wrecked m) w₁ hopen hover).imp (fun _ _ h₂ => .inl h₂.2)
      (fun _ _ h₂ => .inr ⟨rfl, h₂.2⟩) fun _ _ => .inl
  · exact (o.tearDown_yields_of_torn w₁ hopen htorn).imp (fun _ _ h₂ => .inr h₂)
      (fun _ _ h₂ => .inr ⟨rfl, h₂⟩) fun _ _ => .inl

end Outline

/-! ## Runs that come back -/

/-- An outline that asks for nothing: every assertion is `True`.  Its `RunOutline.total` shows that
a run comes back. -/
def RunOutline.idle (r : Runner κ σ) : RunOutline r where
  start _ := True
  ready _ _ := True
  prepared _ _ := True
  waiting _ _ _ := True
  running _ _ := True
  worked _ _ := True
  quiet _ _ := True
  closing _ _ := True
  gone _ _ := True
  torn _ := True
  setUp _ _ := .anyway (fun _ _ => trivial) (fun _ _ => trivial) fun _ _ => trivial
  check _ _ _ _ := .anyway (fun _ _ => by split <;> trivial) fun _ _ => trivial
  prepare _ _ _ _ := .anyway (fun _ _ => trivial) (fun _ _ => trivial) fun _ _ => trivial
  launch _ _ _ _ := .anyway (fun _ _ => trivial) (fun _ _ => trivial) fun _ _ => trivial
  look _ _ _ _ _ := .anyway (fun _ _ => by split <;> trivial) fun _ _ => trivial
  recheck _ _ _ _ _ := .anyway (fun _ _ => by split <;> trivial) fun _ _ => trivial
  pause _ _ _ _ _ := .anyway (fun _ _ => trivial) fun _ _ => trivial
  timeout _ _ _ _ := trivial
  work _ _ _ _ := .anyway (fun _ _ => trivial) (fun _ _ => trivial) fun _ _ => trivial
  shutDown _ _ _ _ := .anyway (fun _ _ => trivial) (fun _ _ => trivial) fun _ _ => trivial
  conclude _ _ _ _ := .anyway (fun _ _ => trivial) (fun _ _ => trivial) fun _ _ => trivial
  processResults _ _ := .anyway (fun _ _ => trivial) (fun _ _ => trivial) fun _ _ => trivial
  tearDown _ _ _ := .anyway (fun _ _ => trivial) fun _ _ => trivial

namespace Returns

variable {r : Runner κ σ} (returns : r.Returns)
include returns

/-- A run comes back if its calls do (`Runner.Returns`): while it goes on no release is left to run.
-/
protected lemma run : Try.Returns r.run :=
  Act.Returns.of_yields fun w => ((RunOutline.idle r).total returns).run_yields w trivial

/-- Letting go of a run comes back as well; it is a single tear-down at most. -/
protected lemma drop : r.drop.Returns := by
  refine Act.Returns.bind .world fun w => ?_
  have close : (do enter .tornDown; onProgress Progress.finish : Act κ (World σ) Unit).Returns :=
    Act.Returns.bind (.update _) fun _ => .update _
  obtain ⟨phase, progress, s⟩ := w
  cases phase with
  | tornDown => exact .pure ()
  | created => exact close
  | setUp | iterating | processResults => exact returns.tearDown.within.bind fun _ => close

/-- A run whose tear-down never panics (`Act.Calm`) comes back with all that is done when it is let
go of: a release that cannot panic cannot abort the process. -/
protected lemma life (calm : r.subject.tearDown.Calm) : r.life.Returns := by
  have dropped : r.drop.Calm := by
    unfold drop Runner.tearDown
    refine Act.PanicsIn.bind (.reading id) fun w => ?_
    have close : (do enter .tornDown; onProgress Progress.finish : Act κ (World σ) Unit).Calm :=
      Act.PanicsIn.bind (.update _) fun _ => .update _
    split
    · exact .pure ()
    · exact .ite (calm.within.bind fun _ => close) close
  exact .ensuring returns.run.result returns.drop dropped

end Returns

end StartupBench.Runner
