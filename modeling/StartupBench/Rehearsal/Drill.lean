import StartupBench.History
import StartupBench.Interrupt
import StartupBench.Runner.Basic

/-!
# Drills

A drill takes the runner through steps that do nothing but what a script says: answer, fail or
panic.  Every call of a step is noted before the script decides, so that the notes show exactly
which steps were entered and in which order.
-/

namespace StartupBench.Drill

/-- A step of a subject. -/
inductive Step where
  | setUp
  | prepare
  | launch
  | isRunning
  | work
  | shutDown
  | conclude
  | processResults
  | tearDown
  deriving DecidableEq, Repr

/-- All steps. -/
def Step.all : List Step :=
  [.setUp, .prepare, .launch, .isRunning, .work, .shutDown, .conclude, .processResults, .tearDown]

/-- A call of a step, with the iteration if the step is told. -/
structure Call where
  step : Step
  iteration : Option Nat := none
  deriving DecidableEq, Repr

/-- How a call goes wrong. -/
inductive Mishap where
  | error (e : RunError)
  | panic (message : String)

/-- A call that goes wrong: the `call`-th of a step, counted from zero. -/
structure Failure where
  step : Step
  call : Nat
  mishap : Mishap

/-- The script of a drill. -/
structure Script where
  /-- The answers to whether the application runs. -/
  running : Array Bool := #[]
  /-- The answer after those. -/
  runningRest : Bool := true
  /-- The answers to whether the user wants to stop; none to look at the flag. -/
  interrupts : Option (Array Bool) := some #[]
  failures : List Failure := []
  /-- Whether the subject has only the steps that every subject has to have. -/
  minimal : Bool := false

/-- How often each step was called. -/
abbrev Counts := List (Step × Nat)

/-- How often a step was called. -/
def Counts.get (counts : Counts) (step : Step) : Nat := (counts.lookup step).getD 0

/-- One more call of a step. -/
def Counts.add (step : Step) : Counts → Counts
  | [] => [(step, 1)]
  | c :: rest => if c.1 = step then (step, c.2 + 1) :: rest else c :: Counts.add step rest

/-- What has happened in a drill. -/
structure World where
  calls : History Call := {}
  counts : Counts := []
  interruptChecks : Nat := 0
  /-- The interrupt flag. -/
  raised : Bool := false

variable {κ : Type}

/-- How often a step was called. -/
def World.count (w : World) (step : Step) : Nat := w.counts.get step

/-- The world after a call. -/
def World.note (w : World) (c : Call) : World :=
  { w with calls := w.calls.push c, counts := w.counts.add c.step }

/-- What the script says about the `n`-th call of a step: the first entry decides. -/
def Script.mishap? (s : Script) (step : Step) (n : Nat) : Option Mishap :=
  (s.failures.find? fun f => f.step = step && f.call = n).map (·.mishap)

/-- Note a call and answer how often the step was called before. -/
def enter (c : Call) : Act κ World Nat :=
  Act.step fun w => (w.count c.step, w.note c)

/-- A step that follows the script. -/
def Script.play (s : Script) (step : Step) (iteration : Option Nat := none) :
    Try κ World RunError Unit := do
  let n ← Try.lift (enter ⟨step, iteration⟩)
  match s.mishap? step n with
  | some (.error e) => Try.fail e
  | some (.panic message) => Try.lift (Act.panic message)
  | none => pure ()

/-- A step that cannot fail. -/
def Script.playThrough (s : Script) (step : Step) : Act κ World Unit := do
  let _ ← (s.play step).result
  pure ()

/-- Whether the application runs. -/
def Script.isRunning (s : Script) : Act κ World Bool := do
  let w ← Act.world
  s.playThrough .isRunning
  pure ((s.running[w.count .isRunning]?).getD s.runningRest)

/-- Whether the user wants to stop. -/
def Script.interrupted (s : Script) : Act κ World Bool :=
  match s.interrupts with
  | none => Act.reading World.raised
  | some answers =>
    Act.step fun w =>
      ((answers[w.interruptChecks]?).getD false,
        { w with interruptChecks := w.interruptChecks + 1 })

/-- The subject of a drill. -/
def Script.subject (s : Script) : Subject κ World :=
  let least : Subject κ World :=
    { setUp := s.play .setUp
      launch := s.play .launch
      isRunning := s.isRunning
      shutDown := s.play .shutDown
      tearDown := s.playThrough .tearDown }
  if s.minimal then least
  else
    { least with
      prepare := fun i => s.play .prepare (some i)
      work := fun i => s.play .work (some i)
      conclude := fun i => s.play .conclude (some i)
      processResults := s.play .processResults }

/-- The run of a drill.  Nothing happens in its pauses. -/
def Script.runner (s : Script) (iterations : Nat) (patience : Patience) : Runner κ World where
  subject := s.subject
  iterations := iterations
  patience := patience
  interrupted := s.interrupted
  sleep _ := pure ()

/-- Wait until the application of a drill runs. -/
def Script.await (s : Script) (patience : Patience) : Try κ World RunError Unit :=
  patience.await s.isRunning s.interrupted fun _ => pure ()

end StartupBench.Drill
