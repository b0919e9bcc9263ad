import StartupBench.RunError

/-!
# Waiting for an application to run

`Patience.await` looks again and again whether the application runs, at most so many times and with
a pause after each look.  After a look in vain it asks whether the user wants to stop.
-/

namespace StartupBench

/-- How long to wait for a launched application. -/
structure Patience where
  /-- How often to look; at least one look is always taken. -/
  attempts : Nat := 300
  /-- The pause after a look in vain. -/
  interval : Duration := ⟨1, 0⟩
  deriving DecidableEq, Repr

namespace Patience

variable {κ σ : Type}

/-- The number of looks. -/
def looks (p : Patience) : Nat := max p.attempts 1

/-- Look once, after `done` looks in vain.  The answer is how the wait ends, if it does. -/
def look (p : Patience) (isRunning interrupted : Act κ σ Bool) (sleep : Duration → Act κ σ Unit)
    (done : Nat) : Act κ σ (Option (Except RunError Unit)) := do
  if ← isRunning then
    Act.log .debug .runner ("Application running after " ++ toString (done + 1) ++ " poll(s)")
    pure (some (.ok ()))
  else if ← interrupted then pure (some (.error .interrupted))
  else
    sleep p.interval
    pure none

/-- Look up to `left` more times after `done` looks in vain. -/
def poll (p : Patience) (isRunning interrupted : Act κ σ Bool) (sleep : Duration → Act κ σ Unit)
    (done left : Nat) : Try κ σ RunError Unit :=
  ExceptT.mk do
    let ending ← Act.first (p.look isRunning interrupted sleep) left done
    pure (ending.getD (.error (.launchTimeout p.looks)))

theorem poll_zero (p : Patience) (isRunning interrupted : Act κ σ Bool)
    (sleep : Duration → Act κ σ Unit) (done : Nat) :
    p.poll isRunning interrupted sleep done 0 = Try.fail (.launchTimeout p.looks) := rfl

theorem poll_succ (p : Patience) (isRunning interrupted : Act κ σ Bool)
    (sleep : Duration → Act κ σ Unit) (done left : Nat) :
    p.poll isRunning interrupted sleep done (left + 1) = (do
      match ← Try.lift (p.look isRunning interrupted sleep done) with
      | some ending => ExceptT.mk (pure ending)
      | none => p.poll isRunning interrupted sleep (done + 1) left) := by
  unfold poll
  rw [Act.first_succ]
  refine ExceptT.ext ?_
  simp only [ExceptT.run_mk, Try.lift, ExceptT.run_bind, ExceptT.run_lift, bind_assoc,
    map_eq_pure_bind, pure_bind]
  congr 1
  funext a
  cases a <;> simp

/-- Wait until the application runs. -/
def await (p : Patience) (isRunning interrupted : Act κ σ Bool)
    (sleep : Duration → Act κ σ Unit) : Try κ σ RunError Unit :=
  p.poll isRunning interrupted sleep 0 p.looks

end Patience

end StartupBench
