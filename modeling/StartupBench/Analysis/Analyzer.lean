import StartupBench.Analysis.Counts
import StartupBench.Command
import StartupBench.Text.Blank

/-!
# Analyzing traces

An analyzer makes metrics of the trace of one iteration.  The one used in practice is a program of
its own that prints event counts.
-/

namespace StartupBench

/-- An analyzer over a world `σ`. -/
structure Analyzer (κ σ : Type) where
  /-- The metrics of a trace for an executable. -/
  analyze : (kernelFile exe : Path) → Try κ σ RunError (List Metric)

namespace Analyzer

variable {κ σ : Type}

/-- An analyzer that finds nothing. -/
def none : Analyzer κ σ where
  analyze _ _ := pure []

/-- The metrics in what an analyzer printed. -/
def metrics (command : Path) (out : Printed) : Try κ σ RunError (List Metric) :=
  if !out.status.isSuccess then
    Try.fail (.analysis (command.display ++ " exited with " ++ out.status.text ++ ": " ++
      Text.trim (Utf8.lossy out.stderr)))
  else
    match EventCounts.read out.stdout with
    | .error fault =>
      Try.fail (.analysis ("malformed analyzer output: " ++ fault.message out.stdout))
    | .ok counts => do
      Try.log .debug .analysis ("Event counts: " ++ counts.text)
      pure counts.metrics

/-- An analyzer that is a program. -/
def external (programs : Programs κ σ) (command : Path) : Analyzer κ σ where
  analyze kernelFile exe := do
    Try.log .debug .analysis
      ("Analyzing " ++ kernelFile.display ++ " with " ++ command.display)
    let kernelFlag : String := "--kernel-file=" ++ kernelFile.display
    let exeFlag : String := "--exe=" ++ exe.display
    match ← Try.attempt (programs.collect ⟨command, [kernelFlag, exeFlag]⟩) with
    | .error e =>
      Try.fail (.analysis ("cannot run " ++ command.display ++ ": " ++ e.message))
    | .ok out => metrics command out

end Analyzer

end StartupBench
