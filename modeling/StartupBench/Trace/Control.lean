import StartupBench.Command
import StartupBench.Trace.Basic

/-!
# Tracing by a control program

A trace is recorded by a program of its own, which is run once to start and once to stop.  A trace
that an earlier run left behind would keep a new one from starting, so it is stopped first, whether
there is one or not.
-/

namespace StartupBench

/-- A tracer that runs `control`, for a program that works in `cwd`. -/
def Tracer.control {κ σ : Type} (programs : Programs κ σ) (control cwd : Path) : Tracer κ σ where
  start directory := do
    match ← Try.attempt (programs.run ⟨control, ["stop"]⟩) with
    | .ok status => Try.log .debug .trace ("Pre-start stop exited with " ++ status.text)
    | .error e => Try.log .debug .trace ("Pre-start stop failed: " ++ e.message)
    if directory.bytes.isEmpty then Try.fail (.io (.other "cannot make an empty path absolute"))
    let files := TraceFiles.inDirectory (Path.absolute cwd directory)
    Try.log .info .trace ("Starting trace capture to \"" ++ files.kernel.display ++ "\" and \"" ++
      files.callTrace.display ++ "\"")
    let kernelFlag : String := "--kernel-file=" ++ files.kernel.display
    let callTraceFlag : String := "--call-trace-file=" ++ files.callTrace.display
    match ← Try.attempt (programs.run ⟨control, ["start", kernelFlag, callTraceFlag]⟩) with
    | .error e => Try.fail (.traceStart ("cannot run " ++ control.display ++ ": " ++ e.message))
    | .ok status =>
      if status.isSuccess then pure (some files)
      else Try.fail (.traceStart (control.display ++ " start exited with " ++ status.text))
  stop := do
    Try.log .info .trace "Stopping trace capture"
    match ← Try.attempt (programs.run ⟨control, ["stop"]⟩) with
    | .error e => Try.fail (.traceStop ("cannot run " ++ control.display ++ ": " ++ e.message))
    | .ok status =>
      if status.isSuccess then pure ()
      else Try.fail (.traceStop (control.display ++ " stop exited with " ++ status.text))

end StartupBench
