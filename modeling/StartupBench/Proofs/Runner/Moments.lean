import StartupBench.Proofs.Runner.TearDown

/-!
# The moments of a run

A run is in contact with others all the time: it calls the steps of its subject, asks whether the
user wants to stop and pauses (`Contact`).  Between two contacts nobody can look at it, so the
moments of a run are those before its contacts, and the end.

`Runner.moment` is the world at such a moment.  It is what is left when the contact panics before it
has done anything, since a panic leaves every caller.  `Act.Cut` relates a computation that is left
in this way to the whole of it, and it is proved along the run like `Act.Over`, one rule for each
construct.

`Runner.moment_calls` is the conclusion for runs: before its contact number `n` a run has made the
first `n` contacts of its life, and no others.  So a statement about every moment of a run is one
about `Runner.moment` at every number, and that is how the progress indicator is followed
(`Runner.position_of_life`).
-/

namespace StartupBench

/-! ## Contacts -/

/-- A contact of a run with the world around it. -/
inductive Contact where
  | called (call : Subject.Call)
  /-- Whether the user wants to stop. -/
  | asked
  | paused
  deriving DecidableEq, Repr

variable {κ σ τ α β : Type}

namespace Act

/-- A contact that is recorded at its end (`Act.recorded`), unless it has the number before which
the run is left: then it panics and does nothing. -/
def contacting (limit : Option Nat) (event : Outcome κ α → Contact) (x : Act κ σ α) :
    Act κ (Recorded Contact σ) α := fun w =>
  if limit = some w.calls.length then panic "left" w else x.recorded event w

lemma Returns.contacting {limit : Option Nat} {event : Outcome κ α → Contact} {x : Act κ σ α}
    (hx : x.Returns) : (x.contacting limit event).Returns := by
  intro w
  unfold Act.contacting
  split
  · exact Returns.panic "left" w
  · exact hx.recorded w

lemma contacting_none (event : Outcome κ α → Contact) (x : Act κ σ α) :
    x.contacting none event = x.recorded event := funext fun _ => if_neg nofun

lemma contacting_over (event : Outcome κ α → Contact) (x : Act κ σ α) :
    (x.contacting none event).Over Recorded.world x := by
  rw [contacting_none]
  exact recorded_over event x

end Act

namespace Try

/-- The call of a step as a contact, for a step that may fail. -/
def contacting (limit : Option Nat) (step : Subject.Step) (x : Try κ σ RunError Unit) :
    Try κ (Recorded Contact σ) RunError Unit :=
  ExceptT.mk (x.run.contacting limit fun out => .called ⟨step, .ofTry out⟩)

lemma contacting_over (step : Subject.Step) (x : Try κ σ RunError Unit) :
    Try.Over Recorded.world (x.contacting none step) x :=
  Act.contacting_over (fun out => .called ⟨step, .ofTry out⟩) x.run

end Try

/-- A subject whose calls are contacts: each is recorded as `Contact.called`, with its step and its
ending. -/
def Subject.contacting (limit : Option Nat) (s : Subject κ σ) :
    Subject κ (Recorded Contact σ) where
  setUp := s.setUp.contacting limit .setUp
  prepare i := (s.prepare i).contacting limit (.prepare i)
  launch := s.launch.contacting limit .launch
  isRunning := s.isRunning.contacting limit fun out => .called ⟨.isRunning, .ofAnswer out⟩
  work i := (s.work i).contacting limit (.work i)
  shutDown := s.shutDown.contacting limit .shutDown
  conclude i := (s.conclude i).contacting limit (.conclude i)
  processResults := s.processResults.contacting limit .processResults
  tearDown := s.tearDown.contacting limit fun out => .called ⟨.tearDown, .ofAct out⟩

namespace Runner

/-- The run with a record of its contacts, counted from zero.  It is left before the one with the
number `limit`, if a limit is given. -/
def leaving (limit : Option Nat) (r : Runner κ σ) : Runner κ (Recorded Contact σ) where
  subject := r.subject.contacting limit
  iterations := r.iterations
  patience := r.patience
  interrupted := r.interrupted.contacting limit fun _ => .asked
  sleep time := (r.sleep time).contacting limit fun _ => .paused

/-- The world of a run, until it is let go of, before its contact number `n`, or at the end if there
are not so many. -/
def moment (r : Runner κ σ) (n : Nat) (w : World σ) : World (Recorded Contact σ) :=
  ((r.leaving (some n)).life ⟨w.phase, w.progress, [], w.subject⟩).world

/-- The contacts of a run, until it is let go of: the record of `Runner.leaving` without a limit. -/
def contacts (r : Runner κ σ) (w : World σ) : List Contact :=
  ((r.leaving none).life ⟨w.phase, w.progress, [], w.subject⟩).world.subject.calls

/-- The record changes nothing: without a limit `Runner.leaving` is `Runner.Over` the run itself. -/
lemma leaving_over (r : Runner κ σ) : (r.leaving none).Over Recorded.world r where
  iterations := rfl
  patience := rfl
  interrupted := Act.contacting_over _ _
  sleep _ := Act.contacting_over _ _
  setUp := Try.contacting_over _ _
  prepare _ := Try.contacting_over _ _
  launch := Try.contacting_over _ _
  isRunning := Act.contacting_over _ _
  work _ := Try.contacting_over _ _
  shutDown := Try.contacting_over _ _
  conclude _ := Try.contacting_over _ _
  processResults := Try.contacting_over _ _
  tearDown := Act.contacting_over _ _

/-- A run whose calls come back (`Runner.Returns`) comes back if it is left as well. -/
lemma Returns.leaving {r : Runner κ σ} (returns : r.Returns) (limit : Option Nat) :
    (r.leaving limit).Returns where
  setUp := Act.Returns.contacting returns.setUp
  prepare i := Act.Returns.contacting (returns.prepare i)
  launch := Act.Returns.contacting returns.launch
  isRunning := returns.isRunning.contacting
  work i := Act.Returns.contacting (returns.work i)
  shutDown := Act.Returns.contacting returns.shutDown
  conclude i := Act.Returns.contacting (returns.conclude i)
  processResults := Act.Returns.contacting returns.processResults
  tearDown := returns.tearDown.contacting
  interrupted := returns.interrupted.contacting
  sleep time := (returns.sleep time).contacting

end Runner

/-! ## Computations that are left -/

/-- Contacts are only added, at the end of the record that `calls` reads. -/
def Grown (calls : τ → List Contact) (w w₁ : τ) : Prop := calls w <+: calls w₁

instance (calls : τ → List Contact) : IsPreorder τ (Grown calls) where
  refl _ := List.prefix_rfl
  trans _ _ _ h h₁ := h.trans h₁

namespace Act

/-- The computation `x'` does what `x` does as long as there are no more than `n` contacts.  If `x`
makes more, `x'` does not answer, and leaves the first `n` of them behind. -/
structure Cut (calls : τ → List Contact) (n : Nat) (x' x : Act κ τ α) : Prop where
  grows : x.Respects (Grown calls)
  cut : ∀ w, (calls w).length ≤ n →
    x' w = x w ∧ (calls (x w).world).length ≤ n ∨
      (∀ a, (x' w).outcome ≠ .returned a) ∧ (calls (x' w).world).length = n ∧
        calls (x' w).world <+: calls (x w).world

namespace Cut

variable {calls : τ → List Contact} {n : Nat} {x' x : Act κ τ α}

lemma calls_eq (h : Cut calls n x' x) {w : τ} (hw : (calls w).length ≤ n) :
    calls (x' w).world = (calls (x w).world).take n := by
  obtain ⟨same, short⟩ | ⟨-, hn, first⟩ := h.cut w hw
  · rw [same, List.take_of_length_le short]
  · rw [List.prefix_iff_eq_take.1 first, hn]

/-- A computation without contacts, which keeps what `calls` reads the same, is never left. -/
lemma of_same (h : x.Respects (Same calls)) : Cut calls n x x where
  grows w := by
    have same : calls (x w).world = calls w := h w
    exact ⟨[], (List.append_nil _).trans same.symm⟩
  cut w hw := by
    have same : calls (x w).world = calls w := h w
    exact .inl ⟨rfl, same ▸ hw⟩

lemma bind {g' g : α → Act κ τ β} (hx : Cut calls n x' x) (hg : ∀ a, Cut calls n (g' a) (g a)) :
    Cut calls n (x' >>= g') (x >>= g) where
  grows := hx.grows.bind fun a => (hg a).grows
  cut w hw := by
    have more : calls (x w).world <+: calls ((x >>= g) w).world := by
      rw [bind_run]
      rcases x w with ⟨a | m | k, w₁, n₁⟩
      · exact (hg a).grows w₁
      · exact List.prefix_rfl
      · exact List.prefix_rfl
    obtain ⟨same, short⟩ | ⟨left, hn, first⟩ := hx.cut w hw
    · rw [bind_run, bind_run, same]
      rcases hr : x w with ⟨a | m | k, w₁, n₁⟩ <;> rw [hr] at short
      · dsimp only
        obtain ⟨same', short'⟩ | ⟨left, hn, first⟩ := (hg a).cut w₁ short
        · rw [same']
          exact .inl ⟨rfl, short'⟩
        · exact .inr ⟨left, hn, first⟩
      · exact .inl ⟨rfl, short⟩
      · exact .inl ⟨rfl, short⟩
    · refine .inr ?_
      rw [bind_run x']
      rcases hr : x' w with ⟨a | m | k, w₁, n₁⟩ <;> rw [hr] at left hn first
      · exact absurd rfl (left a)
      · exact ⟨nofun, hn, first.trans more⟩
      · exact ⟨nofun, hn, first.trans more⟩

lemma ite {c : Prop} [Decidable c] {y' y : Act κ τ α} (hx : Cut calls n x' x)
    (hy : Cut calls n y' y) : Cut calls n (if c then x' else y') (if c then x else y) := by
  split
  · exact hx
  · exact hy

lemma first {body' body : Nat → Act κ τ (Option α)} (h : ∀ i, Cut calls n (body' i) (body i))
    (fuel k : Nat) : Cut calls n (Act.first body' fuel k) (Act.first body fuel k) := by
  induction fuel generalizing k with
  | zero => exact of_same (Respects.pure none)
  | succ fuel ih =>
    rw [first_succ, first_succ]
    refine (h k).bind fun a => ?_
    cases a with
    | some a => exact of_same (Respects.pure (some a))
    | none => exact ih (k + 1)

/-- What is released after a computation adds its contacts, unless the computation is left and no
contact is made any more.  Both computations come back, so that no release is lost to an abort. -/
lemma calls_ensuring {x' x : Act κ τ α} {release' release : Act κ τ Unit}
    (back' : x'.Returns) (back : x.Returns) (hx : Cut calls n x' x)
    (hr : Cut calls n release' release)
    (still : ∀ w, (calls w).length = n → calls (release' w).world = calls w) {w : τ}
    (hw : (calls w).length ≤ n) :
    calls (Act.ensuring x' release' w).world = (calls (Act.ensuring x release w).world).take n := by
  rw [ensuring_world back', ensuring_world back]
  obtain ⟨same, short⟩ | ⟨-, hn, first⟩ := hx.cut w hw
  · rw [same]
    exact hr.calls_eq short
  · have more : calls (x' w).world <+: calls (release (x w).world).world :=
      first.trans (hr.grows _)
    rw [still _ hn, ← hn]
    exact List.prefix_iff_eq_take.1 more

end Cut

lemma contacting_cut (n : Nat) (event : Outcome κ α → Contact) (x : Act κ σ α) :
    Cut Recorded.calls n (x.contacting (some n) event) (x.contacting none event) where
  grows w := List.prefix_append _ _
  cut w hw := by
    rw [contacting_none]
    by_cases last : n = w.calls.length
    · have left : x.contacting (some n) event w = panic "left" w := if_pos (congrArg some last)
      rw [left]
      exact .inr ⟨nofun, last.symm, List.prefix_append _ _⟩
    · have made : x.contacting (some n) event w = x.recorded event w :=
        if_neg fun h => last (Option.some.inj h)
      rw [made]
      have hlen : (x.recorded event w).world.calls.length = w.calls.length + 1 :=
        List.length_append
      exact .inl ⟨rfl, by omega⟩

end Act

namespace Try

variable {ε : Type} {calls : τ → List Contact} {n : Nat}

/-- `Act.Cut` for computations that may fail. -/
def Cut (calls : τ → List Contact) (n : Nat) (x' x : Try κ τ ε α) : Prop :=
  Act.Cut calls n x'.run x.run

namespace Cut

lemma of_same {x : Try κ τ ε α} (h : Try.Respects (Same calls) x) : Try.Cut calls n x x :=
  Act.Cut.of_same h

lemma bind {x' x : Try κ τ ε α} {g' g : α → Try κ τ ε β} (hx : Try.Cut calls n x' x)
    (hg : ∀ a, Try.Cut calls n (g' a) (g a)) : Try.Cut calls n (x' >>= g') (x >>= g) := by
  unfold Cut
  rw [ExceptT.run_bind, ExceptT.run_bind]
  refine Act.Cut.bind hx fun res => ?_
  cases res with
  | ok a => exact hg a
  | error e => exact Act.Cut.of_same (Act.Respects.pure _)

lemma lift {x' x : Act κ τ α} (h : Act.Cut calls n x' x) :
    Try.Cut calls n (Try.lift x' : Try κ τ ε α) (Try.lift x) := by
  unfold Cut Try.lift
  rw [ExceptT.run_lift, ExceptT.run_lift, map_eq_pure_bind, map_eq_pure_bind]
  exact h.bind fun a => Act.Cut.of_same (Act.Respects.pure _)

end Cut

end Try

/-! ## Runs that are left -/

namespace Runner

/-- The contacts that are recorded in the world of a run that keeps such a record. -/
def made (w : World (Recorded Contact σ)) : List Contact := w.subject.calls

variable {n : Nat}

lemma onSubject_cut {x' x : Act κ (Recorded Contact σ) α} (h : Act.Cut Recorded.calls n x' x) :
    Act.Cut made n (onSubject x') (onSubject x) where
  grows w := h.grows w.subject
  cut w hw := by
    obtain ⟨same, short⟩ | cut := h.cut w.subject hw
    · refine .inl ⟨?_, short⟩
      unfold onSubject Act.within
      rw [same]
    · exact .inr cut

lemma trySubject_cut {x' x : Try κ (Recorded Contact σ) RunError α}
    (h : Try.Cut Recorded.calls n x' x) : Try.Cut made n (trySubject x') (trySubject x) :=
  onSubject_cut h

lemma enter_cut (phase : Phase) :
    Act.Cut made n (enter phase : Act κ (World (Recorded Contact σ)) Unit) (enter phase) :=
  .of_same fun _ => rfl

lemma onProgress_cut (f : Progress → Progress) :
    Act.Cut made n (onProgress f : Act κ (World (Recorded Contact σ)) Unit) (onProgress f) :=
  .of_same fun _ => rfl

lemma stage_cut (i : Nat) (text : String) :
    Try.Cut made n (stage i text : Try κ (World (Recorded Contact σ)) RunError Unit)
      (stage i text) := .lift (onProgress_cut _)

section

variable (n : Nat) (r : Runner κ σ)

lemma step_cut (step : Subject.Step) (x : Try κ σ RunError Unit) :
    Try.Cut made n (trySubject (x.contacting (some n) step))
      (trySubject (x.contacting none step)) :=
  trySubject_cut (Act.contacting_cut n _ x.run)

lemma await_cut :
    Try.Cut Recorded.calls n
      ((r.leaving (some n)).patience.await (r.leaving (some n)).subject.isRunning
        (r.leaving (some n)).interrupted (r.leaving (some n)).sleep)
      ((r.leaving none).patience.await (r.leaving none).subject.isRunning
        (r.leaving none).interrupted (r.leaving none).sleep) := by
  unfold Patience.await Patience.poll
  refine Act.Cut.bind (Act.Cut.first (fun i => ?_) _ _) fun _ => .of_same (Act.Respects.pure _)
  unfold Patience.look
  refine (Act.contacting_cut n _ r.subject.isRunning).bind fun b => Act.Cut.ite ?_ ?_
  · exact .of_same fun _ => rfl
  · refine (Act.contacting_cut n _ r.interrupted).bind fun b => Act.Cut.ite ?_ ?_
    · exact .of_same fun _ => rfl
    · refine (Act.contacting_cut n _ (r.sleep _)).bind fun _ => ?_
      exact .of_same fun _ => rfl

lemma iteration_cut (i : Nat) :
    Try.Cut made n ((r.leaving (some n)).iteration i) ((r.leaving none).iteration i) := by
  unfold iteration
  refine (stage_cut i _).bind fun _ => (step_cut n _ (r.subject.prepare i)).bind fun _ => ?_
  refine (stage_cut i _).bind fun _ => (step_cut n _ r.subject.launch).bind fun _ => ?_
  refine (trySubject_cut (r.await_cut n)).bind fun _ => ?_
  refine (stage_cut i _).bind fun _ => (step_cut n _ (r.subject.work i)).bind fun _ => ?_
  refine (stage_cut i _).bind fun _ => (step_cut n _ r.subject.shutDown).bind fun _ => ?_
  exact (stage_cut i _).bind fun _ => step_cut n _ (r.subject.conclude i)

lemma iterate_cut (completed left : Nat) :
    Act.Cut made n ((r.leaving (some n)).iterate completed left)
      ((r.leaving none).iterate completed left) := by
  have attempted : ∀ i, Act.Cut made n ((r.leaving (some n)).attempt i)
      ((r.leaving none).attempt i) := by
    intro i
    unfold attempt
    refine (onSubject_cut (Act.contacting_cut n _ r.interrupted)).bind fun b =>
      Act.Cut.ite (.of_same fun _ => rfl) ?_
    refine Act.Cut.bind (.of_same fun _ => rfl) fun _ => ?_
    refine Act.Cut.bind (r.iteration_cut n i) fun res => ?_
    cases res with
    | error e => exact .of_same fun _ => rfl
    | ok _ => exact .of_same fun _ => rfl
  unfold iterate
  refine (Act.Cut.first (fun i => ?_) _ _).bind fun _ => .of_same (Act.Respects.pure _)
  exact (attempted i).bind fun _ => .of_same (Act.Respects.pure _)

lemma tearDown_cut :
    Act.Cut made n (r.leaving (some n)).tearDown (r.leaving none).tearDown := by
  unfold Runner.tearDown
  refine Act.Cut.bind (.of_same fun _ => rfl) fun w => ?_
  have close : Act.Cut made n
      (do enter .tornDown; onProgress Progress.finish : Act κ (World (Recorded Contact σ)) Unit)
      (do enter .tornDown; onProgress Progress.finish) :=
    (enter_cut _).bind fun _ => onProgress_cut _
  have begun := (onSubject_cut (Act.contacting_cut n
    (fun out => .called ⟨.tearDown, .ofAct out⟩) r.subject.tearDown)).bind fun _ => close
  obtain ⟨phase, progress, s⟩ := w
  cases phase with
  | tornDown => exact .of_same fun _ => rfl
  | created => exact close
  | setUp => exact begun
  | iterating => exact begun
  | processResults => exact begun

lemma giveUp_cut (what : String) (e : RunError) :
    Try.Cut made n
      ((r.leaving (some n)).giveUp what e : Try κ (World (Recorded Contact σ)) RunError α)
      ((r.leaving none).giveUp what e) := by
  unfold giveUp
  refine Try.Cut.bind (.of_same fun _ => rfl) fun _ => ?_
  exact (Try.Cut.lift (r.tearDown_cut n)).bind fun _ => .of_same fun _ => rfl

lemma processResults_cut :
    Try.Cut made n (r.leaving (some n)).processResults (r.leaving none).processResults := by
  unfold Runner.processResults
  refine (Try.Cut.lift (enter_cut _)).bind fun _ => ?_
  refine (Try.Cut.lift (step_cut n _ r.subject.processResults)).bind fun res => ?_
  cases res with
  | error e => exact r.giveUp_cut n _ e
  | ok _ => exact .of_same fun _ => rfl

lemma run_cut : Try.Cut made n (r.leaving (some n)).run (r.leaving none).run := by
  unfold run
  refine (Try.Cut.lift (enter_cut _)).bind fun _ => ?_
  refine (Try.Cut.lift (step_cut n _ r.subject.setUp)).bind fun res => ?_
  cases res with
  | error e => exact r.giveUp_cut n _ e
  | ok _ =>
    refine (Try.Cut.lift (enter_cut _)).bind fun _ => ?_
    refine (Try.Cut.lift (r.iterate_cut n 0 _)).bind fun ended => ?_
    obtain ⟨completed, failure⟩ := ended
    have report : Try.Cut made n
        (do
          Try.lift (r.leaving (some n)).tearDown
          let w ← Try.world
          pure ⟨completed, failure.map fun _ => completed, failure, w.phase⟩ :
          Try κ (World (Recorded Contact σ)) RunError Report)
        (do
          Try.lift (r.leaving none).tearDown
          let w ← Try.world
          pure ⟨completed, failure.map fun _ => completed, failure, w.phase⟩) :=
      (Try.Cut.lift (r.tearDown_cut n)).bind fun _ => .of_same fun _ => rfl
    dsimp only
    cases failure with
    | some e => exact report
    | none => exact (r.processResults_cut n).bind fun _ => report

end

/-- **The moments of a run.**  Before its contact number `n` a run has made the first `n` contacts
of its life, and nothing else is on record. -/
theorem moment_calls {r : Runner κ σ} (returns : r.Returns) (n : Nat) (w : World σ) :
    (r.moment n w).subject.calls = (r.contacts w).take n := by
  -- A run that was left is not torn down: that would be the contact before which it was left.
  have still : ∀ w : World (Recorded Contact σ), (made w).length = n →
      made ((r.leaving (some n)).drop w).world = made w := by
    intro w hn
    have left : (r.leaving (some n)).subject.tearDown w.subject = Act.panic "left" w.subject :=
      if_pos (congrArg some hn.symm)
    refine (returns.leaving (some n)).drop.ends (Q := fun _ w₁ => made w₁ = made w) ?_
    unfold drop Runner.tearDown
    rw [Act.yields_bind, Act.yields_world]
    split
    · rfl
    · rw [Act.yields_ite]
      split
      · rw [Act.yields_bind, yields_onSubject, Act.Yields, left]
        rfl
      · rw [Act.yields_bind, yields_enter, yields_onProgress]
        rfl
  exact (r.run_cut n).calls_ensuring (returns.leaving (some n)).run (returns.leaving none).run
    (r.tearDown_cut n) still (Nat.zero_le n)

end Runner

end StartupBench
