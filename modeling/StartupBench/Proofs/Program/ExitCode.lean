import StartupBench.Program
import StartupBench.Proofs.Runner.TearDown
import Mathlib.Control.Monad.Basic

/-!
# The exit code

Once the program is configured (`Program.configured?`), its exit code depends on what the run of the
benchmark answers, on whether the summary can be shown (`Program.Shown`) and on whether the report
can be written (`Program.Exported`); `Program.Coded` puts this together.  The run answers in two
ways, and only one of them knows of interrupts: a run whose iterations are interrupted has a report
that says so, but a run that is interrupted while it is set up answers with an error like any other.

## Main results

* `Program.code_of_run`: when the exit code is 0, when it is 130, and that it is 1 otherwise.
* `Program.not_code_of_interrupted`: an interrupted run whose exit code is not 130.

The run itself is described by the calls of its steps (`Runner.exists_account`), so that the result
speaks of what was done and not only of what was answered.  Lines that the program prints can make
it panic (`Program.printLine`); the results are about programs that come back with an exit code.
-/

namespace StartupBench

lemma Outcome.answer?_eq_some {κ α : Type} {out : Outcome κ α} {a : α} :
    out.answer? = some a ↔ out = .returned a := by
  cases out <;> simp [answer?]

namespace Runner

variable {κ σ : Type}

/-- The calls of a run that answered, and what they say of the answer.  The `Account` has the steps
before the tear-down, and the `Course` has the answer. -/
lemma exists_account (r : Runner κ σ) (progress : Option Progress) (w : σ)
    {res : Except RunError Report}
    (answered : (r.run.run (World.fresh progress w)).outcome = .returned res) :
    ∃ c : Course, c.outcome r.iterations = (.returned res : Outcome κ _) ∧
      ∃ a : Account, a.Sound r.iterations ∧ a.Tells r c ∧
        r.runCalls progress w = a.calls ++ [⟨.tearDown, .done⟩] := by
  have ran := r.callsOutline.run_yields (World.fresh progress ⟨[], w⟩) rfl
  have same : (r.recorded.run.run (World.fresh progress ⟨[], w⟩)).outcome = .returned res :=
    (r.recorded_over.run_over.outcome_eq (World.fresh progress ⟨[], w⟩)).trans answered
  have known : r.callsOutline.Answered res
      (r.recorded.run.run (World.fresh progress ⟨[], w⟩)).world := by
    have ended := Act.Yields.of_returned ran same
    cases res <;> exact ended
  obtain ⟨c, hc, -, before, ⟨a, sound, tells, rfl⟩, hcalls⟩ := known
  exact ⟨c, hc, a, sound, tells, hcalls⟩

end Runner

namespace Program

variable {κ σ : Type}

/-! ## A configured program -/

/-- The plan that the program comes to, if it does, and the world then.  It does not where the words
are refused by `Options.read`, or where `plan` ends otherwise. -/
def configured? (sys : System κ σ) (words : List RawText) (w : σ) : Option (Plan × σ) :=
  match Options.read sys.surroundings.env words with
  | .error _ => none
  | .ok o =>
    match (plan sys o).run w with
    | ⟨.returned (.ok p), w₁, _⟩ => some (p, w₁)
    | _ => none

/-- The run of a plan, on the benchmark of the system with the settings of the plan. -/
def runner (sys : System κ σ) (p : Plan) : Runner κ (Bench.World (ProcessTable.World σ)) :=
  (sys.bench p.config p.settings).runner p.config.iterations
    { attempts := p.config.launchAttempts }

/-- What the run of a plan comes to, from `World.start` with the progress of the plan. -/
def ran (sys : System κ σ) (p : Plan) (w : σ) : Ran κ (World σ) (Except RunError Report) :=
  (runner sys p).run.run (World.start p.progress w)

/-- The steps that the run of a plan takes the benchmark through, in their order
(`Runner.runCalls`). -/
def steps (sys : System κ σ) (p : Plan) (w : σ) : List Subject.Call :=
  (runner sys p).runCalls (some p.progress) { outside := { outside := w } }

/-- The summary of a run, which has left the world `w`, can be shown if it is to be: `summarize`
answers no error. -/
def Shown (sys : System κ σ) (c : Config) (r : Report) (w : World σ) : Prop :=
  ((summarize sys c r w.subject.state.ledger).run w.system).outcome = .returned (.ok ())

/-- After the summary, the report of the run can be written to its file, if it has one. -/
def Exported (sys : System κ σ) (c : Config) (r : Report) (w : World σ) : Prop :=
  let summarized := (summarize sys c r w.subject.state.ledger).run w.system
  ∀ file, c.json = some file →
    ((writeReport sys c r w.subject.state.ledger file).run summarized.world).outcome =
      .returned (.ok ())

/-- The exit code of a report that could be written, which is 130 for `RunError.interrupted` only.
-/
def reportCode (r : Report) : Nat :=
  match r.error with
  | none => 0
  | some .interrupted => 130
  | some _ => 1

lemma reportCode_of_error {r : Report} {e : RunError} (h : r.error = some e)
    (other : e ≠ .interrupted) : reportCode r = 1 := by
  unfold reportCode
  rw [h]
  cases e with
  | interrupted => exact absurd rfl other
  | _ => rfl

/-- The exit code after a run that left a world behind: of an error of the run it is 1, and of a
report it is `reportCode` if that could be shown and exported. -/
def Coded (sys : System κ σ) (c : Config) (res : Except RunError Report) (w : World σ)
    (code : Nat) : Prop :=
  match res with
  | .error _ => code = 1
  | .ok report =>
    (Shown sys c report w ∧ Exported sys c report w) ∧ code = reportCode report ∨
      ¬(Shown sys c report w ∧ Exported sys c report w) ∧ code = 1

/-! ## From the run to the exit code -/

section Yields

lemma conclude_yields (sys : System κ σ) (c : Config) (r : Report) (w : σ) :
    (conclude sys c r).Yields w (fun e _ => e.code = reportCode r) fun _ _ => True := by
  obtain ⟨completed, failed, error, phase⟩ := r
  unfold conclude reportCode
  cases error with
  | none => exact Eq.refl 0
  | some e =>
    cases e with
    | interrupted =>
      rw [Act.yields_bind]
      exact Act.Yields.anyway (fun _ _ => Eq.refl 130) fun _ _ => trivial
    | _ => exact Eq.refl 1

/-- Exporting fails exactly if the report cannot be written to the file that it is to have. -/
lemma exportReport_yields (sys : System κ σ) (c : Config) (r : Report) (l : Ledger) (w : σ) :
    let written := ∀ file, c.json = some file →
      ((writeReport sys c r l file).run w).outcome = .returned (.ok ())
    Try.Yields (exportReport sys c r l) w (fun _ _ => written) (fun _ _ => ¬written)
      fun _ _ => True := by
  intro written
  unfold exportReport
  cases json : c.json with
  | none =>
    intro file h
    rw [json] at h
    cases h
  | some file =>
    dsimp only
    rw [Try.yields_bind]
    refine Try.Yields.of_ways (fun _ answered => ?_) (fun e answered all => ?_)
      (fun _ _ => trivial) fun _ _ => trivial
    · rw [Try.yields_lift]
      refine Act.Yields.anyway (fun _ _ file' h => ?_) fun _ _ => trivial
      cases json.symm.trans h
      exact answered
    · cases answered.symm.trans (all file json)

lemma publish_yields (sys : System κ σ) (c : Config) (r : Report) (w : World σ) :
    (publish sys c r w.subject.state.ledger).Yields w.system
      (fun e _ => (Shown sys c r w ∧ Exported sys c r w) ∧ e.code = reportCode r ∨
        ¬(Shown sys c r w ∧ Exported sys c r w) ∧ e.code = 1)
      fun _ _ => True := by
  unfold publish
  rw [Act.yields_bind, Try.yields_result]
  refine Try.Yields.of_ways (fun _ shown => ?_) (fun e failed => ?_) (fun _ _ => trivial)
    fun _ _ => trivial
  · dsimp only
    rw [Act.yields_bind, Try.yields_result]
    refine (exportReport_yields sys c r _ _).mono (fun _ w₁ exported => ?_)
      (fun _ _ lost => .inr ⟨fun both => lost both.2, rfl⟩) fun _ _ _ => trivial
    exact (conclude_yields sys c r w₁).mono (fun _ _ code => .inl ⟨⟨shown, exported⟩, code⟩)
      fun _ _ h => h
  · refine .inr ⟨fun both => ?_, rfl⟩
    cases failed.symm.trans both.1

/-- A step of the system, `outside` of the benchmark, answers what it answers in the world of the
system. -/
lemma outside_yields {α : Type} {x : Act κ σ α} {w : World σ} {R : α → Prop}
    (h : x.Yields w.system (fun a _ => R a) fun _ _ => True) :
    (outside x).Yields w (fun a _ => R a) fun _ _ => True := by
  unfold outside Runner.onSubject Bench.asking ProcessTable.asking
  rw [Act.yields_within, Act.yields_within, Act.yields_within]
  exact h

lemma announce_yields (c : Config) (family : Family) (w : World σ) {R : Unit → World σ → Prop}
    {P : String → World σ → Prop} :
    (announce c family : Act κ (World σ) Unit).Yields w R P ↔ R () w := by
  unfold announce
  rw [Act.yields_bind, Act.yields_log]
  cases c.traceControl with
  | none => exact Act.yields_log
  | some _ => cases c.analyzer <;> exact Iff.rfl

/-- An answer stays what it is if the release comes back: `Act.ensuring` changes only the world
then. -/
lemma yields_ensuring_of_answer {α : Type} {x : Act κ σ α} {release : Act κ σ Unit} {w : σ}
    {R : α → Prop} (h : x.Yields w (fun a _ => R a) fun _ _ => True) :
    (Act.ensuring x release).Yields w (fun a _ => R a) fun _ _ => True := by
  rw [Act.yields_ensuring]
  refine h.mono (fun a w₁ ha => ?_) fun m w₁ _ => ?_
  · exact Act.Yields.anyway (fun _ _ => ha) fun _ _ => trivial
  · exact Act.Yields.anyway (fun _ _ => trivial) fun _ _ => trivial

lemma benchmark_yields (sys : System κ σ) (p : Plan) (w : σ) :
    (benchmark sys p.config p.settings).Yields (World.start p.progress w)
      (fun e _ => ∃ res, (ran sys p w).outcome = .returned res ∧
        Coded sys p.config res (ran sys p w).world e.code)
      fun _ _ => True := by
  refine yields_ensuring_of_answer ?_
  rw [Act.yields_bind, announce_yields, Act.yields_bind]
  refine Act.Yields.of_ways (fun res answered => ?_) (fun _ _ => trivial) fun _ _ => trivial
  cases res with
  | error e => exact ⟨_, answered, rfl⟩
  | ok report =>
    dsimp only
    rw [Act.yields_bind, Act.yields_world]
    exact (outside_yields (publish_yields sys p.config report _)).mono
      (fun e _ h => ⟨_, answered, h⟩) fun _ _ h => h

end Yields

/-! ## The program -/

lemma configured?_eq_some {sys : System κ σ} {words : List RawText} {w w₁ : σ} {p : Plan}
    (h : configured? sys words w = some (p, w₁)) :
    ∃ o, Options.read sys.surroundings.env words = .ok o ∧
      ((plan sys o).run w).outcome = .returned (.ok p) ∧ ((plan sys o).run w).world = w₁ := by
  unfold configured? at h
  cases read : Options.read sys.surroundings.env words with
  | error e =>
    rw [read] at h
    cases h
  | ok o =>
    rw [read] at h
    dsimp only at h
    rcases planned : (plan sys o).run w with ⟨(e | p') | m | k, w', n⟩ <;> rw [planned] at h
    · cases h
    · cases h
      exact ⟨o, rfl, by rw [planned], by rw [planned]⟩
    · cases h
    · cases h

lemma run_yields {sys : System κ σ} {words : List RawText} {w w₁ : σ} {p : Plan}
    (configured : configured? sys words w = some (p, w₁)) :
    (run sys words).Yields w
      (fun code _ => ∃ res, (ran sys p w₁).outcome = .returned res ∧
        Coded sys p.config res (ran sys p w₁).world code)
      fun _ _ => True := by
  obtain ⟨o, read, planned, world⟩ := configured?_eq_some configured
  unfold run ending
  rw [read]
  dsimp only
  unfold perform
  rw [Act.yields_bind, Act.yields_bind, Try.yields_result]
  refine Try.Yields.of_ways (fun p' answered => ?_) (fun e answered => ?_) (fun _ _ => trivial)
    fun _ _ => trivial
  · cases planned.symm.trans answered
    rw [world]
    dsimp only [Act.enclosed]
    rw [Act.yields_within]
    refine (benchmark_yields sys p w₁).mono (fun e w₂ coded => ?_) fun _ _ h => h
    cases e with
    | failure f =>
      dsimp only
      rw [Act.yields_bind]
      exact Act.Yields.anyway (fun _ _ => coded) fun _ _ => trivial
    | success => exact coded
    | interrupted => exact coded
    | misused => exact coded
  · cases planned.symm.trans answered

/-- **The exit code.**  A configured program that comes back has made a run that answered.  Its exit
code is 0 exactly if all iterations are complete, the results were processed, the summary could be
shown (`Shown`) and the report was written (`Exported`).  It is 130 exactly if the iterations were
interrupted and the same holds of the summary and the report, and 1 otherwise.  In particular it is
1 if the run could not be set up, be it for an interrupt or not. -/
theorem code_of_run {sys : System κ σ} {words : List RawText} {w w₁ : σ} {p : Plan} {code : Nat}
    (configured : configured? sys words w = some (p, w₁))
    (ended : (run sys words w).outcome = .returned code) :
    let last := (ran sys p w₁).world
    ∃ (res : Except RunError Report) (a : Runner.Account),
      (ran sys p w₁).outcome = .returned res ∧ a.Sound p.config.iterations ∧
        steps sys p w₁ = a.calls ++ [⟨.tearDown, .done⟩] ∧
        (code = 0 ↔ a.setUp = .done ∧ a.completed = p.config.iterations ∧
          a.results = some .done ∧
          ∃ report, res = .ok report ∧ Shown sys p.config report last ∧
            Exported sys p.config report last) ∧
        (code = 130 ↔ ∃ report, res = .ok report ∧ report.error = some .interrupted ∧
          Shown sys p.config report last ∧ Exported sys p.config report last) ∧
        (code = 0 ∨ code = 1 ∨ code = 130) ∧
        ((∃ e, a.setUp = .failed e) → code = 1) := by
  intro last
  obtain ⟨res, answered, coded⟩ := (run_yields configured).of_returned ended
  change Coded sys p.config res last code at coded
  clear_value last
  obtain ⟨course, hcourse, a, sound, tells, hsteps⟩ :=
    (runner sys p).exists_account (some p.progress) _ answered
  refine ⟨res, a, answered, sound, hsteps, ?_⟩
  cases course with
  | setUpFailed e =>
    cases hcourse
    have failed : a.setUp = .failed e := tells
    have one : code = 1 := coded
    simp [one, failed]
  | resultsFailed e =>
    cases hcourse
    have failed : a.results = some (.failed e) := tells
    have one : code = 1 := coded
    simp [one, failed]
  | brokenOff completed e =>
    cases hcourse
    obtain ⟨setUp, hcompleted, hlt, -⟩ := tells
    have short : a.completed ≠ p.config.iterations := fun h =>
      Nat.ne_of_lt hlt (hcompleted.symm.trans h)
    obtain ⟨⟨shown, exported⟩, hcode⟩ | ⟨lost, one⟩ := coded
    · by_cases stopped : e = .interrupted
      · subst stopped
        have interrupted : code = 130 := hcode
        simp [interrupted, setUp, short, shown, exported]
      · have one : code = 1 := hcode.trans (reportCode_of_error rfl stopped)
        simp [one, setUp, short, stopped]
    · simpa [one, setUp, short] using fun _ => not_and.1 lost
  | finished =>
    cases hcourse
    have done : a.results = some .done := tells
    have setUp : a.setUp = .done := (sound.of_results tells).1
    have all : a.completed = p.config.iterations := (sound.of_results tells).2
    obtain ⟨⟨shown, exported⟩, hcode⟩ | ⟨lost, one⟩ := coded
    · have zero : code = 0 := hcode
      simp [zero, setUp, all, done, shown, exported]
    · simpa [one, setUp] using fun _ _ => not_and.1 lost
  | wrecked m => cases hcourse

/-! ## A system to look at -/

/-- A system on which no other process runs.  The interrupt flag is raised from the start or never,
and the profile directory is there or has to be initialized. -/
def deserted (profile raised : Bool) : System Unit Unit where
  programs :=
    { start := fun _ => pure ⟨2⟩
      run := fun _ => pure (.exited 0)
      collect := fun _ => pure ⟨.exited 0, [], []⟩ }
  files :=
    { isFile := fun _ => pure true
      isDirectory := fun _ => pure profile
      removeDirectory := fun _ => pure ()
      list := fun _ => pure []
      removeFile := fun _ => pure ()
      makeTemporary := fun stem => pure ⟨stem⟩
      write := fun _ _ => pure () }
  processes :=
    { own := ⟨1⟩
      list := pure []
      probe := fun _ => pure ()
      terminate := fun _ => pure ()
      poll := fun _ => pure .running
      now := pure .zero
      sleep := fun _ => pure () }
  alarm := { raised := pure raised, now := pure .zero, waitUntil := fun _ => pure raised }
  stdout := { write := fun _ => pure (), flush := pure () }
  stderr := { attended := pure true, write := fun _ => pure () }
  surroundings := { programDirectory := ("." : Path) }
  workingDirectory := "."
  timestamp := "1970-01-01T00:00:00+00:00"
  platform := "none"
  looks := 1
  hung := ()

/-- A command line that asks for one iteration, on the executable `chrome`. -/
def oneIteration : List RawText := ["chrome", "profile", "-n", "1"]

/-- An interrupt before the first iteration makes the exit code 130. -/
theorem code_of_deserted :
    (run (deserted true true) oneIteration ()).outcome = .returned 130 ∧
      ∃ p report, configured? (deserted true true) oneIteration () = some (p, ()) ∧
        (ran (deserted true true) p ()).outcome = .returned (.ok report) ∧
          report.error = some .interrupted ∧
            Shown (deserted true true) p.config report (ran (deserted true true) p ()).world ∧
              Exported (deserted true true) p.config report
                (ran (deserted true true) p ()).world := by
  have configured : (configured? (deserted true true) oneIteration ()).isSome = true := by
    decide +kernel
  have code : (run (deserted true true) oneIteration ()).outcome.answer? = some 130 := by
    decide +kernel
  have ended := Outcome.answer?_eq_some.1 code
  obtain ⟨⟨p, ⟨⟩⟩, configured⟩ := Option.isSome_iff_exists.1 configured
  obtain ⟨res, a, answered, -, -, -, interrupted, -⟩ :=
    code_of_run configured ended
  obtain ⟨report, rfl, stopped⟩ := interrupted.1 rfl
  exact ⟨ended, p, report, configured, answered, stopped⟩

/-- A run that an interrupt ends does not always exit with 130: an interrupt of the set-up is a
failure. -/
theorem not_code_of_interrupted :
    ¬ ∀ (sys : System Unit Unit) (words : List RawText) (w w₁ : Unit) (p : Plan) (code : Nat),
      configured? sys words w = some (p, w₁) → p.config.json = none →
        (run sys words w).outcome = .returned code →
          (ran sys p w₁).outcome = .returned (.error .interrupted) → code = 130 := by
  intro claimed
  have ended : (run (deserted false true) oneIteration ()).outcome.answer? = some 1 := by
    decide +kernel
  have interrupted : (configured? (deserted false true) oneIteration ()).any (fun q =>
      q.1.config.json.isNone && (ran (deserted false true) q.1 q.2).outcome.answer? =
        some (.error .interrupted)) = true := by
    decide +kernel
  obtain ⟨⟨p, ⟨⟩⟩, configured, interrupted⟩ := (Option.any_eq_true _ _).1 interrupted
  obtain ⟨unexported, interrupted⟩ := Bool.and_eq_true_iff.1 interrupted
  have answered : (ran (deserted false true) p ()).outcome = .returned (.error .interrupted) :=
    Outcome.answer?_eq_some.1 (of_decide_eq_true interrupted)
  have code := claimed (deserted false true) oneIteration () () p 1 configured
    (Option.isNone_iff_eq_none.1 unexported) (Outcome.answer?_eq_some.1 ended) answered
  cases code

end Program

end StartupBench
