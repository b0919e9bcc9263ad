import StartupBench.Proofs.Runner.Lifetime

/-!
# The phases of a runner

A run moves through the phases as `Phase.Leads` says and ends torn down, and nothing is called after
that.  But the phase does not keep the runner from being run again: a further run enters the phase
of setting up from wherever the last run has left the runner, and it sets the subject up anew
(`Runner.not_tornDown_for_good`).

All this is read off what happens to a runner (`Runner.LifeStirs`), by induction on the relations
that describe it.  `Follows` says which phase may come after which and what is called in it, and the
rest are numbers: how often a run begins (`starts`), how often it does so anew (`restarts`), and how
often a step is called (`callsOf`).

## Main results

* `Runner.phases_of_lifetime`: what the record of every lifetime shows (`Orderly`).
* `Runner.carefree_phases`: the whole record of two runs.
* `Runner.not_tornDown_for_good`: a runner that is torn down may be run again.
-/

namespace StartupBench

/-- The moves of a run from phase to phase.  The tear-down may come early, from any phase in which
there is something to tear down. -/
inductive Phase.Leads : Phase → Phase → Prop where
  | begun : Leads .created .setUp
  | setUp : Leads .setUp .iterating
  | iterated : Leads .iterating .processResults
  | processed : Leads .processResults .tornDown
  | setUpFailed : Leads .setUp .tornDown
  | brokenOff : Leads .iterating .tornDown

/-- The steps that are called in a phase: none in `Phase.created` and `Phase.tornDown`, and each
step of an iteration in `Phase.iterating`. -/
def Phase.Calls : Phase → Subject.Step → Prop
  | .created, _ | .tornDown, _ => False
  | .setUp, step => step = .setUp ∨ step = .tearDown
  | .iterating, step => step ≠ .setUp ∧ step ≠ .processResults
  | .processResults, step => step = .processResults ∨ step = .tearDown

namespace Runner

variable {κ σ : Type}

/-- From one phase to another, phases are entered and steps are called in order: the phases are left
as a run leaves them (`Phase.Leads`), by a further run or, if nothing was begun, by letting go of
the runner, and each step is called in a phase of its own (`Phase.Calls`). -/
inductive Follows : Phase → List Stir → Phase → Prop where
  | nil {phase : Phase} : Follows phase [] phase
  | called {phase last : Phase} {log : List Stir} {call : Subject.Call}
      (calls : phase.Calls call.step) (rest : Follows phase log last) :
    Follows phase (.called call :: log) last
  | moved {before after last : Phase} {log : List Stir} (leads : before.Leads after)
      (rest : Follows after log last) : Follows before (.entered before after :: log) last
  | restarted {before last : Phase} {log : List Stir} (begun : before ≠ .created)
      (rest : Follows .setUp log last) : Follows before (.entered before .setUp :: log) last
  | dismissed {last : Phase} {log : List Stir} (rest : Follows .tornDown log last) :
    Follows .created (.entered .created .tornDown :: log) last

namespace Follows

lemma append {before phase after : Phase} {log more : List Stir} (h : Follows before log phase)
    (h' : Follows phase more after) : Follows before (log ++ more) after := by
  induction h with
  | nil => exact h'
  | called calls _ ih => exact .called calls (ih h')
  | moved leads _ ih => exact .moved leads (ih h')
  | restarted begun _ ih => exact .restarted begun (ih h')
  | dismissed _ ih => exact .dismissed (ih h')

/-- A run begins by entering `Phase.setUp`, wherever the last one ended. -/
lemma start {before after : Phase} {log : List Stir} (h : Follows .setUp log after) :
    Follows before (.entered before .setUp :: log) after := by
  by_cases hbefore : before = .created
  · subst hbefore
    exact .moved .begun h
  · exact .restarted hbefore h

lemma of_inIteration {calls : List Stir} (h : ∀ s ∈ calls, s.InIteration) :
    Follows .iterating calls .iterating := by
  induction calls with
  | nil => exact .nil
  | cons s calls ih =>
    obtain ⟨hs, hcalls⟩ := List.forall_mem_cons.1 h
    cases s with
    | entered before after => exact hs.elim
    | called call => exact .called ⟨hs.1, hs.2.1⟩ (ih hcalls)

end Follows

section Parts

variable {before after : Phase} {log : List Stir}

lemma follows_setUpAnd {calls : List Stir} (h : ∀ s ∈ calls, s.InIteration) :
    Follows before (setUpAnd before calls) .iterating :=
  .start (.called (.inl rfl) (.moved .setUp (.of_inIteration h)))

lemma Begun.follows (h : Begun before log after) : Follows before log after := by
  cases h with
  | settingUp ending => exact .start (.called (.inl rfl) .nil)
  | iterating calls inIteration => exact follows_setUpAnd inIteration
  | processing calls inIteration ending =>
    exact (follows_setUpAnd inIteration).append (.moved .iterated (.called (.inl rfl) .nil))

lemma Closing.follows (hopen : Open before) (h : Closing before log after) :
    Follows before log after := by
  have calls : before.Calls .tearDown := by
    obtain ⟨created, tornDown⟩ := hopen
    cases before with
    | created => exact absurd rfl created
    | tornDown => exact absurd rfl tornDown
    | setUp => exact .inr rfl
    | iterating => exact ⟨nofun, nofun⟩
    | processResults => exact .inr rfl
  have leads : before.Leads .tornDown := by
    obtain ⟨created, tornDown⟩ := hopen
    cases before with
    | created => exact absurd rfl created
    | tornDown => exact absurd rfl tornDown
    | setUp => exact .setUpFailed
    | iterating => exact .brokenOff
    | processResults => exact .processed
  cases h with
  | done => exact .called calls (.moved leads .nil)
  | panicked m => exact .called calls .nil

lemma RunStirs.follows (h : RunStirs before log after) : Follows before log after := by
  cases h with
  | left begun => exact begun.follows
  | closed begun closing => exact begun.follows.append (closing.follows begun.isOpen)

lemma LifeStirs.follows {runs : Nat} (h : LifeStirs runs before log after) :
    Follows before log after := by
  induction h with
  | dropped dropped =>
    cases dropped with
    | created => exact .dismissed .nil
    | tornDown => exact .nil
    | closed hopen closing => exact closing.follows hopen
  | run ran _ ih => exact ran.follows.append ih

end Parts

/-! ## Counting -/

namespace Stir

/-- Whether `step` is called. -/
def isCallOf (step : Subject.Step) : Stir → Bool
  | entered _ _ => false
  | called call => call.step = step

/-- Whether the subject is about to be set up: `Phase.setUp` is entered. -/
def isStart : Stir → Bool
  | entered _ after => after = .setUp
  | called _ => false

/-- Whether the subject is about to be set up again: `Phase.setUp` is entered from another phase
than `Phase.created`. -/
def isRestart : Stir → Bool
  | entered before after => before ≠ .created ∧ after = .setUp
  | called _ => false

/-- Nothing is set up, and no run is begun. -/
def Later (s : Stir) : Prop := s.isStart = false ∧ s.isCallOf .setUp = false

end Stir

/-- How often `step` is called. -/
def callsOf (step : Subject.Step) (log : List Stir) : Nat := log.countP (Stir.isCallOf step)

/-- How often a run begins (`Stir.isStart`). -/
def starts (log : List Stir) : Nat := log.countP Stir.isStart

/-- How often a run begins after another (`Stir.isRestart`). -/
def restarts (log : List Stir) : Nat := log.countP Stir.isRestart

section Counts

variable {before after : Phase} {log : List Stir} {runs : Nat}

/-- A runner that has begun is never in `Phase.created` again. -/
lemma Follows.not_created (h : Follows before log after) (begun : before ≠ .created)
    (phase : Phase) : .entered .created phase ∉ log := by
  induction h with
  | nil => exact List.not_mem_nil
  | called _ _ ih =>
    rw [List.mem_cons, not_or]
    exact ⟨nofun, ih begun⟩
  | moved leads _ ih =>
    rw [List.mem_cons, not_or]
    refine ⟨fun same => ?_, ih ?_⟩
    · cases same
      exact begun rfl
    · cases leads <;> exact nofun
  | restarted _ _ ih =>
    rw [List.mem_cons, not_or]
    refine ⟨fun same => ?_, ih nofun⟩
    cases same
    exact begun rfl
  | dismissed _ _ => exact absurd rfl begun

lemma later_of_inIteration {s : Stir} (h : s.InIteration) : s.Later := by
  cases s with
  | entered before after => exact h.elim
  | called call => exact ⟨rfl, decide_eq_false h.1⟩

lemma later_setUpAnd {calls : List Stir} (h : ∀ s ∈ calls, s.InIteration) :
    ∀ s ∈ .entered .setUp .iterating :: calls, s.Later := by
  rw [List.forall_mem_cons]
  exact ⟨⟨rfl, rfl⟩, fun s hs => later_of_inIteration (h s hs)⟩

lemma Begun.head (h : Begun before log after) :
    ∃ ending rest, log = .entered before .setUp :: .called ⟨.setUp, ending⟩ :: rest ∧
      ∀ s ∈ rest, s.Later := by
  cases h with
  | settingUp ending => exact ⟨ending, [], rfl, fun _ hs => absurd hs List.not_mem_nil⟩
  | iterating calls inIteration => exact ⟨.done, _, rfl, later_setUpAnd inIteration⟩
  | processing calls inIteration ending =>
    refine ⟨.done, (.entered .setUp .iterating :: calls) ++ _, rfl, fun s hs => ?_⟩
    obtain hs | hs := List.mem_append.1 hs
    · exact later_setUpAnd inIteration s hs
    · obtain rfl | hs := List.mem_cons.1 hs
      · exact ⟨rfl, rfl⟩
      · rw [List.mem_singleton.1 hs]
        exact ⟨rfl, rfl⟩

lemma Closing.later (h : Closing before log after) : ∀ s ∈ log, s.Later := by
  cases h with
  | done => simp [Stir.Later, Stir.isStart, Stir.isCallOf]
  | panicked m => simp [Stir.Later, Stir.isStart, Stir.isCallOf]

lemma RunStirs.head (h : RunStirs before log after) :
    ∃ ending rest, log = .entered before .setUp :: .called ⟨.setUp, ending⟩ :: rest ∧
      ∀ s ∈ rest, s.Later := by
  cases h with
  | left begun => exact begun.head
  | closed begun closing =>
    obtain ⟨ending, rest, rfl, later⟩ := begun.head
    refine ⟨ending, _, rfl, fun s hs => ?_⟩
    exact (List.mem_append.1 hs).elim (later s) (closing.later s)

lemma DropStirs.later (h : DropStirs before log after) : ∀ s ∈ log, s.Later := by
  cases h with
  | created => simp [Stir.Later, Stir.isStart, Stir.isCallOf]
  | tornDown => exact fun _ hs => absurd hs List.not_mem_nil
  | closed _ closing => exact closing.later

lemma starts_eq_zero (h : ∀ s ∈ log, s.Later) : starts log = 0 :=
  List.countP_eq_zero.2 fun s hs => by simp [(h s hs).1]

lemma setUps_eq_zero (h : ∀ s ∈ log, s.Later) : callsOf .setUp log = 0 :=
  List.countP_eq_zero.2 fun s hs => by simp [(h s hs).2]

lemma restarts_eq_zero (h : ∀ s ∈ log, s.Later) : restarts log = 0 := by
  refine List.countP_eq_zero.2 fun s hs => ?_
  have notStart := (h s hs).1
  cases s with
  | entered before after =>
    have elsewhere : after ≠ .setUp := of_decide_eq_false notStart
    simp [Stir.isRestart, elsewhere]
  | called call => exact nofun

/-- Every run enters `Phase.setUp` once, and sets its subject up once. -/
lemma LifeStirs.starts_eq (h : LifeStirs runs before log after) :
    starts log = runs ∧ callsOf .setUp log = runs := by
  induction h with
  | dropped dropped => exact ⟨starts_eq_zero dropped.later, setUps_eq_zero dropped.later⟩
  | run ran _ ih =>
    obtain ⟨ending, rest, rfl, later⟩ := ran.head
    have noStart := starts_eq_zero later
    have noSetUp := setUps_eq_zero later
    unfold starts callsOf at *
    constructor
    · rw [List.countP_append, ih.1, List.countP_cons, List.countP_cons, noStart]
      exact Nat.add_comm _ _
    · rw [List.countP_append, ih.2, List.countP_cons, List.countP_cons, noSetUp]
      exact Nat.add_comm _ _

/-- Every run but the first of a runner begins anew; if the runner was begun before, each does. -/
lemma LifeStirs.restarts_eq (h : LifeStirs runs before log after) :
    restarts log = if before = .created then runs - 1 else runs := by
  induction h with
  | dropped dropped =>
    rw [restarts_eq_zero dropped.later]
    split <;> rfl
  | @run runs before phase after _ _ ran _ ih =>
    have begun : phase ≠ .created := by
      rintro rfl
      cases ran with
      | left begun => exact begun.isOpen.1 rfl
      | closed begun closing =>
        cases closing
        exact begun.isOpen.1 rfl
    rw [if_neg begun] at ih
    obtain ⟨ending, rest, rfl, later⟩ := ran.head
    have noRestart := restarts_eq_zero later
    unfold restarts at *
    rw [List.countP_append, ih, List.countP_cons, List.countP_cons, noRestart]
    by_cases hbefore : before = .created
    · simp [Stir.isRestart, hbefore]
    · simp [Stir.isRestart, hbefore, Nat.add_comm]

/-! ## Tearing down -/

lemma Begun.tearDowns (h : Begun before log after) : callsOf .tearDown log = 0 := by
  have noTearDown : ∀ calls : List Stir, (∀ s ∈ calls, s.InIteration) →
      callsOf .tearDown (setUpAnd before calls) = 0 := by
    intro calls inIteration
    refine List.countP_eq_zero.2 fun s hs => ?_
    obtain hs | hs := List.mem_append.1 hs
    · simp only [List.mem_cons, List.not_mem_nil, or_false] at hs
      obtain rfl | rfl | rfl := hs <;> exact nofun
    · have among := inIteration s hs
      cases s with
      | entered before after => exact nofun
      | called call => simpa [Stir.isCallOf] using among.2.2
  cases h with
  | settingUp ending => rfl
  | iterating calls inIteration => exact noTearDown calls inIteration
  | processing calls inIteration ending =>
    have before := noTearDown calls inIteration
    unfold callsOf at *
    rw [List.countP_append, before]
    rfl

lemma Closing.tearDowns (h : Closing before log after) : callsOf .tearDown log = 1 := by
  cases h <;> rfl

/-- A tear-down that comes back leaves the runner in `Phase.tornDown`; one that panics is the last
thing on record. -/
lemma Closing.tornDown (h : Closing before log after) :
    after = .tornDown ∨ ∃ m, log.getLast? = some (.called ⟨.tearDown, .panicked m⟩) := by
  cases h with
  | done => exact .inl rfl
  | panicked m => exact .inr ⟨m, rfl⟩

lemma callsOf_append (step : Subject.Step) (log more : List Stir) :
    callsOf step (log ++ more) = callsOf step log + callsOf step more := List.countP_append

lemma RunStirs.tearDowns_le (h : RunStirs before log after) : callsOf .tearDown log ≤ 1 := by
  cases h with
  | left begun => exact begun.tearDowns ▸ Nat.zero_le 1
  | closed begun closing =>
    have before := begun.tearDowns
    have last := closing.tearDowns
    rw [callsOf_append]
    omega

lemma DropStirs.tearDowns_le (h : DropStirs before log after) : callsOf .tearDown log ≤ 1 := by
  cases h with
  | created => exact Nat.zero_le 1
  | tornDown => exact Nat.zero_le 1
  | closed _ closing => exact Nat.le_of_eq closing.tearDowns

/-- No run tears down twice, and letting go of the runner (`DropStirs`) adds one tear-down at most.
-/
lemma LifeStirs.tearDowns_le (h : LifeStirs runs before log after) :
    callsOf .tearDown log ≤ runs + 1 := by
  induction h with
  | dropped dropped => exact dropped.tearDowns_le
  | run ran _ ih =>
    have le := ran.tearDowns_le
    rw [callsOf_append]
    omega

/-- If no tear-down panics, there are no more of them than runs: a run that is left without one
makes room for that of the drop. -/
lemma LifeStirs.tearDowns_le_of_calm (h : LifeStirs runs before log after)
    (closed : ¬ Open before) (calm : ∀ m, .called ⟨.tearDown, .panicked m⟩ ∉ log) :
    callsOf .tearDown log ≤ runs := by
  induction h with
  | dropped dropped =>
    cases dropped with
    | created => exact Nat.le_refl 0
    | tornDown => exact Nat.le_refl 0
    | closed hopen _ => exact absurd hopen closed
  | @run runs before phase after log more ran rest ih =>
    have calmRest : ∀ m, .called ⟨.tearDown, .panicked m⟩ ∉ more :=
      fun m hm => calm m (List.mem_append_right _ hm)
    rw [callsOf_append]
    cases ran with
    | left begun =>
      have le := rest.tearDowns_le
      rw [begun.tearDowns]
      omega
    | closed begun closing =>
      rw [callsOf_append, begun.tearDowns, closing.tearDowns]
      cases closing with
      | done =>
        have le := ih (fun hopen => hopen.2 rfl) calmRest
        omega
      | panicked m =>
        refine absurd (List.mem_append_left _ ?_) (calm m)
        exact List.mem_append_right _ (List.mem_singleton_self _)

/-- A runner ends in `Phase.tornDown`, unless the last thing was a tear-down that panicked. -/
lemma LifeStirs.tornDown (h : LifeStirs runs before log after) :
    after = .tornDown ∨ ∃ m, log.getLast? = some (.called ⟨.tearDown, .panicked m⟩) := by
  induction h with
  | dropped dropped =>
    cases dropped with
    | created => exact .inl rfl
    | tornDown => exact .inl rfl
    | closed _ closing => exact closing.tornDown
  | run _ _ ih =>
    refine ih.imp id fun ⟨m, hm⟩ => ⟨m, ?_⟩
    rw [List.getLast?_append, hm]
    rfl

end Counts

/-! ## The phases of a runner -/

/-- What a record shows of a runner that was run so many times and then let go of. -/
structure Orderly (runs : Nat) (log : List Stir) (last : Phase) : Prop where
  /-- The phases follow one another as they may, and each step is called in a phase of its own. -/
  follows : Follows .created log last
  /-- Every run enters the phase of setting up once, -/
  starts_eq : starts log = runs
  /-- and all but the first do so although the runner has been run before. -/
  restarts_eq : restarts log = runs - 1
  setUps_eq : callsOf .setUp log = runs
  /-- The runner goes from created to torn down only if it is never run, and nothing is called
  then. -/
  dismissed : .entered .created .tornDown ∈ log ↔ runs = 0
  untouched : runs = 0 → log = [.entered .created .tornDown]
  tearDowns_le : callsOf .tearDown log ≤ runs + 1
  tearDowns_le_of_calm : (∀ m, .called ⟨.tearDown, .panicked m⟩ ∉ log) →
    callsOf .tearDown log ≤ runs
  /-- The runner ends torn down, unless the last thing was a tear-down that panicked. -/
  tornDown : last = .tornDown ∨ ∃ m, log.getLast? = some (.called ⟨.tearDown, .panicked m⟩)

lemma LifeStirs.orderly {runs : Nat} {log : List Stir} {last : Phase}
    (h : LifeStirs runs .created log last) : Orderly runs log last where
  follows := h.follows
  starts_eq := h.starts_eq.1
  restarts_eq := h.restarts_eq.trans (if_pos rfl)
  setUps_eq := h.starts_eq.2
  dismissed := by
    cases h with
    | dropped dropped =>
      cases dropped with
      | created => simp
      | closed hopen _ => exact absurd rfl hopen.1
    | run ran rest =>
      have whole := (LifeStirs.run ran rest).follows
      obtain ⟨ending, more, rfl, -⟩ := ran.head
      refine iff_of_false (fun hmem => ?_) (Nat.succ_ne_zero _)
      obtain same | hmem := List.mem_cons.1 hmem
      · cases same
      · cases whole with
        | moved leads rest => exact rest.not_created nofun _ hmem
        | restarted begun _ => exact absurd rfl begun
  untouched := by
    rintro rfl
    cases h with
    | dropped dropped =>
      cases dropped with
      | created => rfl
      | closed hopen _ => exact absurd rfl hopen.1
  tearDowns_le := h.tearDowns_le
  tearDowns_le_of_calm := h.tearDowns_le_of_calm fun hopen => hopen.1 rfl
  tornDown := h.tornDown

/-- **The phases of a runner.**  However often it is run and however its calls end, a runner goes
through the phases in order from its creation to its being torn down, and each step is called in a
phase of its own, so that nothing is called while the runner is torn down.  Only a further run takes
it back, from whatever phase the last one has left it in: a runner sets its subject up once for each
run.  In a lifetime of one run at most the phase never goes back, and the subject is set up once and
torn down once at most, unless tearing down panics. -/
theorem phases_of_lifetime (r : Runner κ σ) (returns : r.Returns) (runs : Nat)
    (progress : Option Progress) (w : σ) :
    Orderly runs (r.stirs runs progress w) (r.lifetime runs (.fresh progress w)).world.phase := by
  obtain ⟨log, hlog, stirred⟩ := lifeStirs returns (.fresh progress ⟨[], w⟩) runs
  have same : World.map Recorded.world
      (r.stirring.lifetimeBy enterStirring runs (.fresh progress ⟨[], w⟩)).world =
        (r.lifetime runs (.fresh progress w)).world :=
    (r.lifetimeBy_over runs).world_eq (.fresh progress ⟨[], w⟩)
  have phase : (r.lifetime runs (.fresh progress w)).world.phase =
      (r.stirring.lifetimeBy enterStirring runs (.fresh progress ⟨[], w⟩)).world.phase := by
    rw [← same]
    rfl
  unfold stirs
  rw [phase, hlog]
  exact stirred.orderly

/-- A runner without iterations whose calls all come back (`carefree_returns`). -/
def carefree : Runner Empty Unit where
  subject :=
    { setUp := pure ()
      launch := pure ()
      isRunning := pure true
      shutDown := pure ()
      tearDown := pure () }
  iterations := 0
  interrupted := pure false
  sleep _ := pure ()

lemma carefree_returns : carefree.Returns where
  setUp := .pure ()
  prepare _ := .pure ()
  launch := .pure ()
  isRunning := .pure true
  work _ := .pure ()
  shutDown := .pure ()
  conclude _ := .pure ()
  processResults := .pure ()
  tearDown := .pure ()
  interrupted := .pure false
  sleep _ := .pure ()

/-- Two runs of `carefree` go through the phases twice, and nothing is left for letting go of the
runner. -/
theorem carefree_phases :
    carefree.stirs 2 none () =
        [.entered .created .setUp, .called ⟨.setUp, .done⟩, .entered .setUp .iterating,
          .entered .iterating .processResults, .called ⟨.processResults, .done⟩,
          .called ⟨.tearDown, .done⟩, .entered .processResults .tornDown,
          .entered .tornDown .setUp, .called ⟨.setUp, .done⟩, .entered .setUp .iterating,
          .entered .iterating .processResults, .called ⟨.processResults, .done⟩,
          .called ⟨.tearDown, .done⟩, .entered .processResults .tornDown] ∧
      restarts (carefree.stirs 2 none ()) = 1 ∧
      callsOf .setUp (carefree.stirs 2 none ()) = 2 ∧
      (carefree.lifetime 2 (.fresh none ())).world.phase = .tornDown := by
  have stirs : carefree.stirs 2 none () = _ := rfl
  have orderly := carefree.phases_of_lifetime carefree_returns 2 none ()
  refine ⟨stirs, orderly.restarts_eq, orderly.setUps_eq, orderly.tornDown.resolve_right ?_⟩
  rintro ⟨m, last⟩
  rw [stirs] at last
  cases last

/-- Being torn down is not the end: a runner that is run twice, such as `carefree`, sets its subject
up once more. -/
theorem not_tornDown_for_good :
    ¬ ∀ (r : Runner Empty Unit), r.Returns →
      ∀ (runs : Nat) (progress : Option Progress) (w : Unit),
      (∀ before after, .entered before after ∈ r.stirs runs progress w →
        before.Leads after ∨ before = .created ∧ after = .tornDown) ∧
      callsOf .setUp (r.stirs runs progress w) ≤ 1 ∧
      callsOf .tearDown (r.stirs runs progress w) ≤ 1 := by
  intro forGood
  have again : .entered .tornDown .setUp ∈ carefree.stirs 2 none () := by decide +kernel
  obtain leads | ⟨created, -⟩ :=
    (forGood carefree carefree_returns 2 none ()).1 .tornDown .setUp again
  · cases leads
  · cases created

end Runner

end StartupBench
