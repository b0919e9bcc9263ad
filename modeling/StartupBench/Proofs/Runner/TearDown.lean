import StartupBench.Proofs.Runner.Calls

/-!
# How often a run is torn down

A run tears its subject down at its end, and letting go of the run makes up for that if the run was
left by a panic.  The phase says whether it still has to be done, and it says so until the tear-down
has come back: a tear-down that panics in the run is made once more when the run is let go of.

`Runner.Ending` is the whole account: what the run did, and what letting go of it added.  Up to the
tear-down it is the account of `Account`, in which no call tears down
(`Account.Sound.not_tearDown`), so that the calls can be counted (`Runner.tearDowns_of_life`).
-/

namespace StartupBench

namespace Act

variable {κ σ α : Type}

/-- After a computation that comes back, its release leaves its world behind, whichever way `x` ends
and whichever way the release does. -/
lemma ensuring_world {x : Act κ σ α} (hx : x.Returns) (release : Act κ σ Unit) (w : σ) :
    (ensuring x release w).world = (release (x w).world).world := by
  unfold ensuring
  rcases hw : x w with ⟨a | m | k, w₁, n₁⟩
  · dsimp only
    rcases release w₁ with ⟨_ | m | k, w₂, n₂⟩ <;> rfl
  · dsimp only
    rcases release w₁ with ⟨_ | m' | k, w₂, n₂⟩ <;> rfl
  · exact absurd (congrArg Ran.outcome hw) (hx w k)

end Act

namespace Runner

open Subject (Call Ending block blocks waited CutAt)

variable {κ σ : Type}

/-- How many of the calls tear the subject down, whichever way they end. -/
def tearDowns (calls : List Call) : Nat := calls.countP (·.step = .tearDown)

/-- The calls of a run, up to the time when it is let go of.  `Runner.calls` goes on from there with
those of the drop. -/
def runCalls (r : Runner κ σ) (progress : Option Progress) (w : σ) : List Call :=
  (r.recorded.run.run (World.fresh progress ⟨[], w⟩)).world.subject.calls

/-! ## The calls up to the tear-down -/

lemma not_tearDown_of_block {i looks : Nat} {call : Call} (h : call ∈ block i looks) :
    call.step ≠ .tearDown := by
  unfold block waited at h
  simp only [List.cons_append, List.mem_cons, List.mem_append, List.mem_replicate,
    List.not_mem_nil, or_false] at h
  obtain rfl | rfl | ⟨-, rfl⟩ | rfl | rfl | rfl | rfl := h <;> simp [Call.vainLook]

lemma Account.Sound.not_tearDown {n : Nat} {a : Account} (h : a.Sound n) {call : Call}
    (hcall : call ∈ a.calls) : call.step ≠ .tearDown := by
  unfold Account.calls at hcall
  simp only [List.cons_append, List.mem_cons, List.mem_append] at hcall
  obtain rfl | (complete | cut) | results := hcall
  · exact nofun
  · obtain ⟨i, -, hi⟩ := List.mem_flatMap.1 complete
    exact not_tearDown_of_block hi
  · obtain none | ⟨last, ⟨looks, before, sound, rest, hblock, hstep, hpart⟩, -⟩ := h.cut
    · rw [none] at cut
      cases cut
    · rw [hpart] at cut
      obtain earlier | hlast := List.mem_append.1 cut
      · have inBlock : call ∈ block a.completed looks := by
          rw [hblock]
          exact List.mem_append_left _ earlier
        exact not_tearDown_of_block inBlock
      · have inBlock : sound ∈ block a.completed looks := by
          rw [hblock]
          exact List.mem_append_right _ List.mem_cons_self
        rw [List.mem_singleton.1 hlast, hstep]
        exact not_tearDown_of_block inBlock
  · cases hres : a.results with
    | none =>
      rw [hres] at results
      cases results
    | some ending =>
      rw [hres] at results
      rw [List.mem_singleton.1 results]
      exact nofun

lemma Account.Sound.tearDowns_append {n : Nat} {a : Account} (h : a.Sound n)
    (more : List Call) : tearDowns (a.calls ++ more) = tearDowns more := by
  have before : tearDowns a.calls = 0 := by
    refine List.countP_eq_zero.2 fun call hcall => ?_
    simpa using h.not_tearDown hcall
  unfold tearDowns at before ⊢
  rw [List.countP_append, before, Nat.zero_add]

/-! ## The run and what comes after it -/

/-- The calls of a run in which a tear-down that panics is the last one: `Runner.callsOutline` with
another assertion for that case. -/
def tornOutline (r : Runner κ σ) : RunOutline r.recorded :=
  { r.callsOutline.toRunOutline with
    torn := On fun l => ∃ c before m, r.Accounted c before ∧
      l = before ++ [⟨.tearDown, .panicked m⟩]
    tearDown := by
      intro c w hw
      refine Subject.recorded_tearDown_yields (fun s => ?_) fun m s => ?_
      · exact ⟨w.calls, hw, rfl⟩
      · exact ⟨c, w.calls, m, hw, rfl⟩ }

/-- Letting go of a run that has still to be torn down (`Open`) is one more call, which may end in
any way. -/
lemma drop_calls_of_open {r : Runner κ σ} (returns : r.Returns) (w : World (Recorded Call σ))
    (h : Open w.phase) :
    ∃ ending, (r.recorded.drop w).world.subject.calls =
      w.subject.calls ++ [⟨.tearDown, ending⟩] := by
  have once : r.recorded.drop.Yields w
      (fun _ w₁ => ∃ ending, w₁.subject.calls = w.subject.calls ++ [⟨.tearDown, ending⟩])
      fun _ w₁ => ∃ ending, w₁.subject.calls = w.subject.calls ++ [⟨.tearDown, ending⟩] := by
    unfold drop Runner.tearDown
    rw [Act.yields_bind, Act.yields_world]
    split
    · exact absurd ‹_› h.2
    · rw [if_pos h.1, Act.yields_bind, yields_onSubject]
      exact Subject.recorded_tearDown_yields (fun s => ⟨_, rfl⟩) fun m s => ⟨_, rfl⟩
  exact returns.recorded.drop.ends (Q := fun _ (w₁ : World (Recorded Call σ)) => ∃ ending,
    w₁.subject.calls = w.subject.calls ++ [⟨.tearDown, ending⟩]) once

lemma drop_of_tornDown (r : Runner κ σ) (w : World (Recorded Call σ))
    (h : w.phase = .tornDown) : (r.recorded.drop w).world = w := by
  unfold drop Runner.tearDown
  rw [Act.bind_run]
  dsimp only [Act.world]
  rw [h]
  rfl

/-- How a run ends, and what is done when it is let go of: `before` are the calls up to the
tear-down, `ran` those of the run and `lived` those of its life. -/
inductive Ending (before : List Call) : (ran lived : List Call) → Prop where
  /-- The run has torn down, and nothing is left to do. -/
  | tornDown :
    Ending before (before ++ [⟨.tearDown, .done⟩]) (before ++ [⟨.tearDown, .done⟩])
  /-- A panic has left the run before it tore down. -/
  | left (ending : Subject.Ending) :
    Ending before before (before ++ [⟨.tearDown, ending⟩])
  /-- The tear-down of the run has panicked, and it is made again. -/
  | torn (m : String) (ending : Subject.Ending) :
    Ending before (before ++ [⟨.tearDown, .panicked m⟩])
      (before ++ [⟨.tearDown, .panicked m⟩] ++ [⟨.tearDown, ending⟩])

lemma calls_eq_drop {r : Runner κ σ} (returns : r.Returns) (progress : Option Progress)
    (w : σ) :
    r.calls progress w = (r.recorded.drop
      (r.recorded.run.run (World.fresh progress ⟨[], w⟩)).world).world.subject.calls :=
  congrArg (fun w₁ : World (Recorded Call σ) => w₁.subject.calls)
    (Act.ensuring_world returns.recorded.run.result _ _)

lemma exists_ending {r : Runner κ σ} (returns : r.Returns) (progress : Option Progress)
    (w : σ) :
    ∃ a : Account, a.Sound r.iterations ∧
      Ending a.calls (r.runCalls progress w) (r.calls progress w) := by
  rw [calls_eq_drop returns]
  unfold runCalls
  -- A run that answers has torn down, and its phase says so.
  have answered : ∀ (res : Except RunError Report) (w₁ : World (Recorded Call σ)),
      r.tornOutline.Answered res w₁ → ∃ a : Account, a.Sound r.iterations ∧
        Ending a.calls w₁.subject.calls (r.recorded.drop w₁).world.subject.calls := by
    rintro res w₁ ⟨c, -, hphase, before, ⟨a, sound, -, rfl⟩, hcalls⟩
    rw [r.drop_of_tornDown w₁ hphase, hcalls]
    exact ⟨a, sound, .tornDown⟩
  refine returns.recorded.run.result.ends
    (Q := fun _ (w₁ : World (Recorded Call σ)) => ∃ a : Account, a.Sound r.iterations ∧
      Ending a.calls w₁.subject.calls (r.recorded.drop w₁).world.subject.calls) ?_
  refine Act.Yields.mono (r.tornOutline.run_yields (.fresh progress ⟨[], w⟩) rfl)
    (fun res w₁ h₁ => ?_) fun m w₁ h₁ => ?_
  · cases res with
    | ok report => exact answered _ w₁ h₁
    | error e => exact answered _ w₁ h₁
  -- A run that is left by a panic has an open phase, wherever the panic came from.
  · obtain ⟨hopen, ⟨a, sound, -, hcalls⟩ | ⟨c, before, m', ⟨a, sound, -, rfl⟩, hcalls⟩⟩ := h₁
    · obtain ⟨ending, hdrop⟩ := drop_calls_of_open returns w₁ hopen
      rw [hdrop, hcalls]
      exact ⟨a, sound, .left ending⟩
    · obtain ⟨ending, hdrop⟩ := drop_calls_of_open returns w₁ hopen
      rw [hdrop, hcalls]
      exact ⟨a, sound, .torn m' ending⟩

/-- **How often a run is torn down.**  Once, unless the tear-down in the run panics: then it is made
twice, since the phase does not yet say that it was made. -/
theorem tearDowns_of_life (r : Runner κ σ) (returns : r.Returns) (progress : Option Progress)
    (w : σ) :
    ((∃ m, ⟨.tearDown, .panicked m⟩ ∈ r.runCalls progress w) →
        tearDowns (r.calls progress w) = 2) ∧
      ((∀ m, ⟨.tearDown, .panicked m⟩ ∉ r.runCalls progress w) →
        tearDowns (r.calls progress w) = 1) := by
  obtain ⟨a, sound, ending⟩ := exists_ending returns progress w
  generalize r.runCalls progress w = ran at ending
  generalize r.calls progress w = lived at ending
  cases ending with
  | tornDown =>
    refine ⟨fun ⟨m, hm⟩ => ?_, fun _ => sound.tearDowns_append _⟩
    obtain hm | hm := List.mem_append.1 hm
    · exact absurd rfl (sound.not_tearDown hm)
    · cases List.mem_singleton.1 hm
  | left ending =>
    exact ⟨fun ⟨m, hm⟩ => absurd rfl (sound.not_tearDown hm), fun _ => sound.tearDowns_append _⟩
  | torn m ending =>
    refine ⟨fun _ => ?_, fun calm => ?_⟩
    · rw [List.append_assoc]
      exact sound.tearDowns_append _
    · exact absurd (List.mem_append_right _ List.mem_cons_self) (calm m)

/-- A run whose tear-down panics each time that it is made. -/
def clumsy : Runner Empty Unit where
  subject :=
    { setUp := pure ()
      launch := pure ()
      isRunning := pure true
      shutDown := pure ()
      tearDown := Act.panic "crash in tear_down" }
  iterations := 1
  interrupted := pure false
  sleep _ := pure ()

lemma clumsy_returns : clumsy.Returns where
  setUp := .pure ()
  prepare _ := .pure ()
  launch := .pure ()
  isRunning := .pure true
  work _ := .pure ()
  shutDown := .pure ()
  conclude _ := .pure ()
  processResults := .pure ()
  tearDown := .panic _
  interrupted := .pure false
  sleep _ := .pure ()

/-- The life of `clumsy` has two tear-downs, and the process aborts, since the second one panics
while the first panic is under way. -/
theorem clumsy_tearDowns :
    tearDowns (clumsy.calls none ()) = 2 ∧
      (clumsy.life (.fresh none ())).outcome = .stopped .aborted :=
  ⟨(clumsy.tearDowns_of_life clumsy_returns none ()).1 ⟨"crash in tear_down", by decide +kernel⟩,
    rfl⟩

/-- A run is not always torn down exactly once, even if all its calls come back: `clumsy` is torn
down twice. -/
theorem not_tearDowns_eq_one :
    ¬ ∀ (r : Runner Empty Unit), r.Returns → ∀ (progress : Option Progress) (w : Unit),
      tearDowns (r.calls progress w) = 1 := by
  intro once
  have twice : tearDowns (clumsy.calls none ()) = 2 := by decide +kernel
  exact absurd (twice.symm.trans (once clumsy clumsy_returns none ())) (by decide)

end Runner

end StartupBench
