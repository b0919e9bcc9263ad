import StartupBench.Proofs.Runner.Moments

/-!
# The progress that a run shows

A run has a progress indicator that is to tell how many iterations are done.
`Runner.position_of_life` says where it stands at every moment of a run (`Runner.moment`), whatever
the calls of the run do.

Until the run is torn down the indicator counts the completed iterations.  Tearing down finishes the
indicator (`Progress.finish`), whether or not the run has come through its iterations, and one that
knows its length jumps to it.  So only a hidden indicator counts to the end
(`Runner.not_position_eq_completed`).

## How the proof goes

What is to be seen of a run in a world is its `sight`: the phase, the indicator, and how many
iterations the contacts on record complete.  The lemmas below follow a run that may be left before
any of its contacts (`Runner.leaving`) and say what each piece does to the sight:

* `stage_steady` and `attempt_counts`: an iteration leaves the sight alone until it is complete, and
  then the iteration and the indicator are counted one after the other.
* `tearDown_counts`: the run enters its last phase and the indicator is finished.
* `life_counts`: the whole life ends with a finished indicator (`Finished`), or it was left by a
  panic with an indicator that still counts (`LeftOpen`).
-/

namespace StartupBench

/-! ## Completed iterations -/

namespace Contact

/-- The last step of an iteration (`Subject.Step.conclude`), and it succeeds. -/
def completes : Contact → Bool
  | called ⟨.conclude _, .done⟩ => true
  | _ => false

/-- How many iterations are complete after these contacts: so many of them are the end of one
(`Contact.completes`). -/
def completed (contacts : List Contact) : Nat := contacts.countP completes

lemma completed_concat (contacts : List Contact) (c : Contact) :
    completed (contacts ++ [c]) = completed contacts + if c.completes then 1 else 0 := by
  rw [completed, List.countP_append, List.countP_singleton, completed]

/-- How many iterations the contacts on record complete. -/
def done {σ : Type} (w : Recorded Contact σ) : Nat := completed w.calls

end Contact

variable {κ σ : Type} {limit : Option Nat}

lemma Act.contacting_respects {α : Type} {event : Outcome κ α → Contact} {x : Act κ σ α}
    (h : ∀ out, (event out).completes = false) :
    (x.contacting limit event).Respects (Same Contact.done) := by
  intro w
  unfold contacting
  by_cases last : limit = some w.calls.length
  · rw [if_pos last]
    exact Std.Refl.refl w
  · rw [if_neg last]
    have counted := Contact.completed_concat w.calls (event (x w.world).outcome)
    rw [h, if_neg Bool.false_ne_true, Nat.add_zero] at counted
    exact counted

lemma Act.yields_contacting {α : Type} {event : Outcome κ α → Contact} {x : Act κ σ α}
    {w : Recorded Contact σ} {R : α → Recorded Contact σ → Prop}
    {P : String → Recorded Contact σ → Prop} (left : P "left" w)
    (h : (x.recorded event).Yields w R P) : (x.contacting limit event).Yields w R P := by
  unfold Yields contacting
  by_cases last : limit = some w.calls.length
  · rw [if_pos last]
    exact left
  · rw [if_neg last]
    exact h

lemma Try.contacting_respects {step : Subject.Step} {x : Try κ σ RunError Unit}
    (h : ∀ ending, (Contact.called ⟨step, ending⟩).completes = false) :
    Try.Respects (Same Contact.done) (x.contacting limit step) :=
  Act.contacting_respects fun _ => h _

namespace Runner

open Contact (completed done)

/-! ## What is to be seen of a run -/

/-- What is to be seen of a run.  The contacts themselves are not in it, and so most of a run leaves
it alone. -/
structure Sight where
  phase : Phase
  /-- The length and the position of the indicator, if there is one. -/
  indicator : Option (Option Nat × Nat)
  /-- How many iterations are complete. -/
  completed : Nat

/-- What is to be seen of a run in a world that keeps a record of the contacts. -/
def sight (w : World (Recorded Contact σ)) : Sight :=
  ⟨w.phase, w.progress.map fun p => (p.length, p.position), done w.subject⟩

/-- The indicator is told that an iteration is done, and its position goes up by one. -/
lemma sight_iterationDone (w : World (Recorded Contact σ)) :
    sight { w with progress := w.progress.map Progress.iterationDone } =
      { sight w with
        indicator := (sight w).indicator.map fun shown => (shown.1, shown.2 + 1) } := by
  obtain ⟨phase, progress, s⟩ := w
  cases progress <;> rfl

/-- The run is torn down, and the indicator is told that it is over: an indicator with a length
jumps to it. -/
lemma sight_finish (w : World (Recorded Contact σ)) :
    sight { w with phase := .tornDown, progress := w.progress.map Progress.finish } =
      { sight w with
        phase := .tornDown
        indicator := (sight w).indicator.map fun shown => (shown.1, shown.1.getD shown.2) } := by
  obtain ⟨phase, progress, s⟩ := w
  cases progress <;> rfl

/-- In the phase, so many iterations are complete, and the indicator that began as `p` counts them:
it stands at so many beyond the position of `p`. -/
def Counts (p : Progress) (phase : Phase) (i : Nat) (w : World (Recorded Contact σ)) : Prop :=
  sight w = ⟨phase, some (p.length, p.position + i), i⟩

/-- The run is torn down after `i` iterations, and the indicator is finished: it stands at its
length, or at its count if it has none. -/
def Finished (p : Progress) (i : Nat) (w : World (Recorded Contact σ)) : Prop :=
  sight w = ⟨.tornDown, some (p.length, p.length.getD (p.position + i)), i⟩

/-- A panic has left the run while it was `Open`, and the indicator still counts. -/
def LeftOpen (p : Progress) (w : World (Recorded Contact σ)) : Prop :=
  ∃ phase i, Open phase ∧ Counts p phase i w

namespace Counts

variable {p : Progress} {phase : Phase} {i : Nat} {w w₁ : World (Recorded Contact σ)}

lemma of_same (h : Counts p phase i w) (h₁ : Same sight w w₁) : Counts p phase i w₁ :=
  Eq.trans h₁ h

lemma entered (h : Counts p phase i w) (next : Phase) :
    Counts p next i { w with phase := next } := by
  have counts : sight w = ⟨phase, some (p.length, p.position + i), i⟩ := h
  show { sight w with phase := next } = _
  rw [counts]

/-- An iteration is complete, and then the indicator is told: between the two it is one behind, and
no contact is made there. -/
lemma counted (h : Counts p phase i w)
    (h₁ : sight w₁ = { sight w with completed := (sight w).completed + 1 }) :
    Counts p phase (i + 1) { w₁ with progress := w₁.progress.map Progress.iterationDone } := by
  have counts : sight w = ⟨phase, some (p.length, p.position + i), i⟩ := h
  rw [Counts, sight_iterationDone, h₁, counts]
  rfl

lemma finished (h : Counts p phase i w) :
    Finished p i { w with phase := .tornDown, progress := w.progress.map Progress.finish } := by
  have counts : sight w = ⟨phase, some (p.length, p.position + i), i⟩ := h
  rw [Finished, sight_finish, counts]
  rfl

end Counts

section Steady

variable {α : Type}

lemma onSubject_steady {x : Act κ (Recorded Contact σ) α} (h : x.Respects (Same done)) :
    (onSubject x).Respects (Same sight) := by
  intro w
  have seen : done (x w.subject).world = done w.subject := h w.subject
  unfold Same sight onSubject Act.within
  rw [seen]

lemma trySubject_steady {x : Try κ (Recorded Contact σ) RunError α}
    (h : Try.Respects (Same done) x) : Try.Respects (Same sight) (trySubject x) :=
  onSubject_steady h

/-- What an iteration is doing is shown beside the bar (`Runner.stage`), and that changes nothing of
the sight. -/
lemma stage_steady (i : Nat) (text : String) :
    Try.Respects (Same sight)
      (stage i text : Try κ (World (Recorded Contact σ)) RunError Unit) := by
  refine Try.Respects.lift fun w => ?_
  obtain ⟨phase, progress, s⟩ := w
  cases progress <;> rfl

lemma await_steady (limit : Option Nat) (r : Runner κ σ) :
    Try.Respects (Same sight)
      (trySubject ((r.leaving limit).patience.await (r.leaving limit).subject.isRunning
        (r.leaving limit).interrupted (r.leaving limit).sleep)) := by
  have looks : (r.leaving limit).subject.isRunning.Respects (Same done) :=
    Act.contacting_respects fun _ => rfl
  have asks : (r.leaving limit).interrupted.Respects (Same done) :=
    Act.contacting_respects fun _ => rfl
  have pauses : ∀ time, ((r.leaving limit).sleep time).Respects (Same done) :=
    fun _ => Act.contacting_respects fun _ => rfl
  exact trySubject_steady
    ((r.leaving limit).patience.await_tracks looks.tracks asks.tracks
      fun time => (pauses time).tracks).respects

end Steady

/-! ## One iteration -/

/-- One more iteration is complete after the computation, unless it fails.  Nothing else that is to
be seen is changed. -/
def Completing (x : Try κ (World (Recorded Contact σ)) RunError Unit) : Prop :=
  ∀ w, Try.Yields x w
    (fun _ w₁ => sight w₁ = { sight w with completed := (sight w).completed + 1 })
    (fun _ => Same sight w) fun _ => Same sight w

lemma Completing.after {x g : Try κ (World (Recorded Contact σ)) RunError Unit}
    (hg : Completing g) (hx : Try.Respects (Same sight) x) :
    Completing (x >>= fun _ => g) := by
  intro w
  rw [Try.yields_bind]
  refine (hx.yields w).imp (fun _ w₁ h₁ => ?_) (fun _ _ h₁ => h₁) (fun _ _ h₁ => h₁)
    fun _ _ _ => trivial
  have seen : sight w₁ = sight w := h₁
  refine (hg w₁).mono (fun _ w₂ h₂ => ?_) (fun _ w₂ h₂ => ?_) fun _ w₂ h₂ => ?_
  · rwa [seen] at h₂
  · exact Eq.trans h₂ seen
  · exact Eq.trans h₂ seen

section Iterations

variable (limit : Option Nat) (r : Runner κ σ)

lemma conclude_completing (i : Nat) :
    Completing (trySubject ((r.leaving limit).subject.conclude i)) := by
  intro w
  have same : ∀ (c : Contact) (s : σ), c.completes = false →
      Same sight w { w with subject := ⟨w.subject.calls ++ [c], s⟩ } := by
    intro c s hc
    unfold Same sight done
    rw [Contact.completed_concat, hc, if_neg Bool.false_ne_true, Nat.add_zero]
  rw [yields_trySubject]
  refine Act.yields_contacting (Std.Refl.refl w) ?_
  rw [Act.yields_recorded]
  refine Act.Yields.anyway (fun res s => ?_) fun m s => same _ s rfl
  cases res with
  | error e => exact same _ s rfl
  | ok _ =>
    show sight _ = _
    unfold sight done
    rw [Contact.completed_concat]
    rfl

lemma iteration_completing (i : Nat) : Completing ((r.leaving limit).iteration i) := by
  have called : ∀ (x : Try κ σ RunError Unit) (step : Subject.Step),
      (∀ ending, (Contact.called ⟨step, ending⟩).completes = false) →
      Try.Respects (Same sight) (trySubject (x.contacting limit step)) :=
    fun x step h => trySubject_steady (Try.contacting_respects h)
  unfold iteration
  refine .after ?_ (stage_steady i _)
  refine .after ?_ (called (r.subject.prepare i) (.prepare i) fun _ => rfl)
  refine .after ?_ (stage_steady i _)
  refine .after ?_ (called r.subject.launch .launch fun _ => rfl)
  refine .after ?_ (r.await_steady limit)
  refine .after ?_ (stage_steady i _)
  refine .after ?_ (called (r.subject.work i) (.work i) fun _ => rfl)
  refine .after ?_ (stage_steady i _)
  refine .after ?_ (called r.subject.shutDown .shutDown fun _ => rfl)
  exact .after (r.conclude_completing limit i) (stage_steady i _)

variable {p : Progress}

lemma attempt_counts (i : Nat) {w : World (Recorded Contact σ)}
    (h : Counts p .iterating i w) :
    ((r.leaving limit).attempt i).Yields w
      (fun failure => Counts p .iterating (failure.elim (i + 1) fun _ => i))
      fun _ => Counts p .iterating i := by
  have asked : (onSubject (r.leaving limit).interrupted).Respects (Same sight) :=
    onSubject_steady (Act.contacting_respects fun _ => rfl)
  unfold attempt
  rw [Act.yields_bind]
  refine (asked.yields w).imp (fun b w₁ h₁ => ?_) (fun _ _ h₁ => h.of_same h₁)
    fun _ _ _ => trivial
  have counts : Counts p .iterating i w₁ := h.of_same h₁
  rw [Act.yields_ite]
  split
  · rw [Act.yields_bind, Act.yields_log]
    exact counts
  · rw [Act.yields_bind, Act.yields_log, Act.yields_bind, Try.yields_result]
    refine (r.iteration_completing limit i w₁).mono (fun _ w₂ h₂ => ?_) (fun e w₂ h₂ => ?_)
      fun _ _ h₂ => counts.of_same h₂
    · rw [Act.yields_bind, yields_onProgress]
      exact counts.counted h₂
    · rw [Act.yields_bind, Act.yields_log]
      exact counts.of_same h₂

lemma iterate_counts (left : Nat) {w : World (Recorded Contact σ)}
    (h : Counts p .iterating 0 w) :
    ((r.leaving limit).iterate 0 left).Yields w
      (fun ended => Counts p .iterating ended.1)
      fun _ w₁ => ∃ i, Counts p .iterating i w₁ := by
  unfold iterate
  rw [Act.yields_bind]
  refine Act.yields_first (Counts p .iterating) left 0 w h
    (fun i w₁ _ _ h₁ => ?_) fun w₁ h₁ => h₁
  rw [Act.yields_bind]
  refine (r.attempt_counts limit i h₁).mono (fun failure w₂ h₂ => ?_) fun _ w₂ h₂ => ⟨i, h₂⟩
  cases failure with
  | none => exact h₂
  | some e => exact h₂

end Iterations

/-! ## The end of a run -/

section Runs

variable (limit : Option Nat) (r : Runner κ σ) {p : Progress}

lemma tearDown_counts {phase : Phase} {i : Nat} {w : World (Recorded Contact σ)}
    (isOpen : Open phase) (h : Counts p phase i w) :
    (r.leaving limit).tearDown.Yields w (fun _ => Finished p i) fun _ => Counts p phase i := by
  have torn : (onSubject (r.leaving limit).subject.tearDown).Respects (Same sight) :=
    onSubject_steady (Act.contacting_respects fun _ => rfl)
  have hphase : w.phase = phase := congrArg Sight.phase h
  unfold Runner.tearDown
  rw [Act.yields_bind, Act.yields_world, hphase]
  split
  · exact absurd rfl isOpen.2
  · rw [if_pos isOpen.1, Act.yields_bind]
    refine (torn.yields w).imp (fun _ w₁ h₁ => ?_) (fun _ _ h₁ => h.of_same h₁)
      fun _ _ _ => trivial
    rw [Act.yields_bind, yields_enter, yields_onProgress]
    exact (h.of_same h₁).finished

lemma giveUp_counts {α : Type} (what : String) (e : RunError) {phase : Phase} {i : Nat}
    {w : World (Recorded Contact σ)} (isOpen : Open phase) (h : Counts p phase i w) :
    Try.Yields
      ((r.leaving limit).giveUp what e : Try κ (World (Recorded Contact σ)) RunError α) w
      (fun _ _ => False) (fun _ w₁ => ∃ i, Finished p i w₁) fun _ => LeftOpen p := by
  unfold giveUp
  rw [Try.yields_bind, Try.yields_log, Try.yields_bind, Try.yields_lift]
  exact (r.tearDown_counts limit isOpen h).mono (fun _ _ h₁ => ⟨i, h₁⟩)
    fun _ _ h₁ => ⟨phase, i, isOpen, h₁⟩

lemma processResults_counts {i : Nat} {w : World (Recorded Contact σ)}
    (h : Counts p .iterating i w) :
    Try.Yields (r.leaving limit).processResults w (fun _ => Counts p .processResults i)
      (fun _ w₁ => ∃ i, Finished p i w₁) fun _ => LeftOpen p := by
  have isOpen : Open .processResults := ⟨nofun, nofun⟩
  have processed : Try.Respects (Same sight)
      (trySubject (r.leaving limit).subject.processResults) :=
    trySubject_steady (Try.contacting_respects fun _ => rfl)
  have entered := h.entered .processResults
  unfold Runner.processResults
  rw [Try.yields_bind, Try.yields_lift, yields_enter, Try.yields_bind, Try.yields_attempt]
  refine (processed.yields _).imp (fun _ _ h₁ => entered.of_same h₁) (fun e w₁ h₁ => ?_)
    (fun _ _ h₁ => ⟨_, i, isOpen, entered.of_same h₁⟩) fun _ _ _ => trivial
  exact (r.giveUp_counts limit _ e isOpen (entered.of_same h₁)).mono (fun _ _ hf => hf.elim)
    (fun _ _ h₂ => h₂) fun _ _ h₂ => h₂

/-- What is reported is the number of iterations at which the indicator was finished, which is the
number of those completed. -/
lemma report_counts {completed : Nat} (failure : Option RunError) {phase : Phase}
    {w : World (Recorded Contact σ)} (isOpen : Open phase) (h : Counts p phase completed w) :
    Try.Yields
      (do
        Try.lift (r.leaving limit).tearDown
        let w ← Try.world
        pure ⟨completed, failure.map fun _ => completed, failure, w.phase⟩ :
        Try κ (World (Recorded Contact σ)) RunError Report) w
      (fun report => Finished p report.completed)
      (fun _ w₁ => ∃ i, Finished p i w₁) fun _ => LeftOpen p := by
  rw [Try.yields_bind, Try.yields_lift]
  refine (r.tearDown_counts limit isOpen h).mono (fun _ w₁ h₁ => ?_)
    fun _ _ h₁ => ⟨phase, completed, isOpen, h₁⟩
  rw [Try.yields_bind, Try.yields_world, Try.yields_pure]
  exact h₁

lemma run_counts {phase : Phase} {w : World (Recorded Contact σ)} (h : Counts p phase 0 w) :
    Try.Yields (r.leaving limit).run w (fun report => Finished p report.completed)
      (fun _ w₁ => ∃ i, Finished p i w₁) fun _ => LeftOpen p := by
  have isSetUp : Open .setUp := ⟨nofun, nofun⟩
  have isIterating : Open .iterating := ⟨nofun, nofun⟩
  have isProcessing : Open .processResults := ⟨nofun, nofun⟩
  have setUp : Try.Respects (Same sight) (trySubject (r.leaving limit).subject.setUp) :=
    trySubject_steady (Try.contacting_respects fun _ => rfl)
  unfold run
  rw [Try.yields_bind, Try.yields_lift, yields_enter, Try.yields_bind, Try.yields_attempt]
  have begun := h.entered .setUp
  refine (setUp.yields _).imp (fun _ w₁ h₁ => ?_) (fun e w₁ h₁ => ?_)
    (fun _ _ h₁ => ⟨_, 0, isSetUp, begun.of_same h₁⟩) fun _ _ _ => trivial
  · rw [Try.yields_bind, Try.yields_lift, yields_enter, Try.yields_bind, Try.yields_lift]
    have iterating := (begun.of_same h₁).entered .iterating
    refine (r.iterate_counts limit r.iterations iterating).mono (fun ended w₂ h₂ => ?_)
      fun _ _ ⟨i, h₂⟩ => ⟨_, i, isIterating, h₂⟩
    obtain ⟨completed, failure⟩ := ended
    cases failure with
    | some e => exact r.report_counts limit _ isIterating h₂
    | none =>
      dsimp only
      rw [Option.isNone_none, if_pos rfl, Try.yields_bind]
      exact (r.processResults_counts limit h₂).mono
        (fun _ _ h₃ => r.report_counts limit _ isProcessing h₃) (fun _ _ h₃ => h₃) fun _ _ h₃ => h₃
  · exact (r.giveUp_counts limit _ e isSetUp (begun.of_same h₁)).mono (fun _ _ hf => hf.elim)
      (fun _ _ h₂ => h₂) fun _ _ h₂ => h₂

/-- At the end of a life the indicator is `Finished`, unless tearing down has panicked.  So it is
too if tearing down panics during a panic and the process is aborted. -/
lemma life_counts (returns : r.Returns) {phase : Phase} {w : World (Recorded Contact σ)}
    (h : Counts p phase 0 w) :
    (r.leaving limit).life.Yields w
      (fun res w₁ => ∃ i, Finished p i w₁ ∧ ∀ report, res = .ok report → report.completed = i)
      (fun _ w₁ => LeftOpen p w₁ ∨ ∃ i, Finished p i w₁)
      fun _ w₁ => LeftOpen p w₁ ∨ ∃ i, Finished p i w₁ := by
  have back := returns.leaving limit
  -- What is torn down stays as it is when the run is let go of.
  have closed : ∀ {i : Nat} {w₁ : World (Recorded Contact σ)}
      {P : String → World (Recorded Contact σ) → Prop}
      {H : Stop κ → World (Recorded Contact σ) → Prop}, Finished p i w₁ →
      (r.leaving limit).drop.Yields w₁ (fun _ => Finished p i) P H := by
    intro i w₁ P H h₁
    have hphase : w₁.phase = .tornDown := congrArg Sight.phase h₁
    unfold drop Runner.tearDown
    rw [Act.yields_bind, Act.yields_world, hphase]
    exact h₁
  unfold life
  rw [Act.yields_ensuring, Try.yields_result]
  refine (Try.Returns.yields (K := fun _ _ => False) back.run (r.run_counts limit h)).imp
    (fun report w₁ h₁ => ?_) (fun e w₁ h₁ => ?_) (fun m w₁ h₁ => ?_) fun _ _ h₁ => h₁.elim
  · refine (closed h₁).imp (fun _ w₂ h₂ => ⟨report.completed, h₂, ?_⟩) (fun _ _ hm => hm)
      fun _ _ hk => hk
    rintro _ ⟨⟩
    rfl
  · obtain ⟨i, h₁⟩ := h₁
    exact (closed h₁).imp (fun _ w₂ h₂ => ⟨i, h₂, nofun⟩) (fun _ _ hm => hm) fun _ _ hk => hk
  · obtain ⟨phase, i, isOpen, h₁⟩ := h₁
    refine (back.drop.yields (K := fun _ _ => False)
      (r.tearDown_counts limit isOpen h₁)).imp (fun _ w₂ h₂ => .inr ⟨i, h₂⟩)
      (fun _ w₂ h₂ => .inl ⟨phase, i, isOpen, h₂⟩) fun _ _ h₂ => h₂.elim

end Runs

/-! ## The position -/

/-- The indicator that began as `p` stands at the number of iterations that are complete, or, if the
run is torn down, at its length if it knows it. -/
def Indicates {τ : Type} (p : Progress) (completed : Nat) (w : World τ) : Prop :=
  w.progress.map Progress.position = some
    (if w.phase = .tornDown then p.length.getD (p.position + completed)
      else p.position + completed)

section Indicates

variable {p : Progress} {i : Nat} {w : World (Recorded Contact σ)}

/-- What is to be seen (`sight`) tells the position, the phase and the number of complete
iterations, and so what the indicator shows. -/
lemma indicates_of_sight {phase : Phase} {length : Option Nat} {position : Nat}
    (h : sight w = ⟨phase, some (length, position), i⟩)
    (hp : position = if phase = .tornDown then p.length.getD (p.position + i) else p.position + i) :
    Indicates p (done w.subject) w := by
  have hphase : w.phase = phase := congrArg Sight.phase h
  have hdone : done w.subject = i := congrArg Sight.completed h
  have hposition : w.progress.map Progress.position = some position := by
    have shown : (sight w).indicator.map Prod.snd = some position := by
      rw [h]
      rfl
    rw [← shown, sight, Option.map_map]
    rfl
  rw [Indicates, hphase, hdone, hposition, hp]

lemma Counts.indicates {phase : Phase} (isOpen : Open phase) (h : Counts p phase i w) :
    Indicates p (done w.subject) w :=
  indicates_of_sight h (if_neg isOpen.2).symm

lemma Finished.indicates (h : Finished p i w) : Indicates p (done w.subject) w :=
  indicates_of_sight h (if_pos rfl).symm

lemma LeftOpen.indicates (h : LeftOpen p w) : Indicates p (done w.subject) w := by
  obtain ⟨phase, i, isOpen, counts⟩ := h
  exact counts.indicates isOpen

lemma Finished.done_eq (h : Finished p i w) : done w.subject = i := congrArg Sight.completed h

end Indicates

/-- **The position of the indicator.**  At every moment of a run (`Runner.moment`), whatever its
calls do, the indicator stands at the number of iterations that the contacts so far complete, as
long as the run is not torn down.  When it is torn down, an indicator without a length stays there,
and one with a length stands at its length from then on, also if the run was broken off.  So it is
at the end too, and a report tells the number of iterations that were completed. -/
theorem position_of_life (r : Runner κ σ) (returns : r.Returns) (phase : Phase) (p : Progress)
    (s : σ) :
    (∀ n, Indicates p (completed ((r.contacts ⟨phase, some p, s⟩).take n))
      (r.moment n ⟨phase, some p, s⟩)) ∧
    Indicates p (completed (r.contacts ⟨phase, some p, s⟩)) (r.life ⟨phase, some p, s⟩).world ∧
    ∀ report, (r.life ⟨phase, some p, s⟩).outcome = .returned (.ok report) →
      report.completed = completed (r.contacts ⟨phase, some p, s⟩) := by
  have start : Counts p phase 0 (⟨phase, some p, [], s⟩ : World (Recorded Contact σ)) := rfl
  have shown (limit : Option Nat) :
      Indicates p (done ((r.leaving limit).life ⟨phase, some p, [], s⟩).world.subject)
        ((r.leaving limit).life ⟨phase, some p, [], s⟩).world := by
    refine Act.Yields.ends (Q := fun _ w => Indicates p (done w.subject) w)
      ((r.life_counts limit returns start).imp (fun _ _ h₁ => ?_) (fun _ _ h₁ => ?_)
        fun _ _ h₁ => ?_)
    · obtain ⟨i, h₁, -⟩ := h₁
      exact h₁.indicates
    all_goals
      obtain h₁ | ⟨i, h₁⟩ := h₁
      · exact h₁.indicates
      · exact h₁.indicates
  -- The run that is never left is the run itself.
  have unchanged := r.leaving_over.life_over
  refine ⟨fun n => ?_, ?_, fun report hreport => ?_⟩
  · rw [← moment_calls returns n ⟨phase, some p, s⟩]
    exact shown (some n)
  · have same : World.map Recorded.world ((r.leaving none).life ⟨phase, some p, [], s⟩).world =
        (r.life ⟨phase, some p, s⟩).world := unchanged.world_eq ⟨phase, some p, [], s⟩
    rw [← same]
    exact shown none
  · have reported := (unchanged.outcome_eq ⟨phase, some p, [], s⟩).trans hreport
    obtain ⟨i, h₁, hi⟩ := (r.life_counts none returns start).of_returned reported
    rw [hi report rfl]
    exact h₁.done_eq.symm

/-- A run of three iterations of which the second cannot be prepared. -/
def halting : Runner Empty Unit where
  subject :=
    { setUp := pure ()
      prepare := fun i => if i = 1 then Try.fail (.traceStart "no session") else pure ()
      launch := pure ()
      isRunning := pure true
      shutDown := pure ()
      tearDown := pure () }
  iterations := 3
  interrupted := pure false
  sleep _ := pure ()

lemma halting_returns : halting.Returns where
  setUp := .pure ()
  prepare _ := .ite (.fail _) (.pure ())
  launch := .pure ()
  isRunning := .pure true
  work _ := .pure ()
  shutDown := .pure ()
  conclude _ := .pure ()
  processResults := .pure ()
  tearDown := .pure ()
  interrupted := .pure false
  sleep _ := .pure ()

/-- One iteration of `halting` is complete; a visible indicator is left at three and a hidden one at
one. -/
theorem halting_position :
    completed (halting.contacts (.fresh (some (.visible 3)) ())) = 1 ∧
      ((halting.life (.fresh (some (.visible 3)) ())).world.progress.map Progress.position =
        some 3) ∧
      (halting.life (.fresh (some (.hidden 3)) ())).world.progress.map Progress.position =
        some 1 := by
  have shown (p : Progress) :=
    (halting.position_of_life halting_returns .created p ()).2.1
  exact ⟨by decide +kernel, shown (.visible 3), (shown (.hidden 3)).trans (by decide +kernel)⟩

/-- The indicator does not always stand at the number of completed iterations: one that is visible
stands at its length after a run that was broken off, such as `halting`. -/
theorem not_position_eq_completed :
    ¬ ∀ (r : Runner Empty Unit), r.Returns → ∀ p : Progress,
      (∃ total, p = .visible total ∨ p = .hidden total) →
      ∀ n, (r.moment n (.fresh (some p) ())).progress.map Progress.position =
        some (completed ((r.contacts (.fresh (some p) ())).take n)) := by
  intro counts
  have shown := counts halting halting_returns (.visible 3) ⟨3, .inl rfl⟩
    (halting.contacts (.fresh none ())).length
  revert shown
  decide +kernel

end Runner

end StartupBench
