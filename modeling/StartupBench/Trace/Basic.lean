import StartupBench.RunError

/-!
# Capturing traces

While an iteration runs, a tracer records what the system does.  A tracer is started with the
directory to write to, answers which files it writes, if it writes any, and is stopped again.
-/

namespace StartupBench

/-- The files of a trace. -/
structure TraceFiles where
  /-- Events of the system. -/
  kernel : Path
  /-- Events of the application. -/
  callTrace : Path
  deriving DecidableEq, Repr

/-- The files of a trace in a directory. -/
def TraceFiles.inDirectory (directory : Path) : TraceFiles where
  kernel := directory.join "kernel.etl"
  callTrace := directory.join "call_trace.etl"

/-- A tracer over a world `σ`. -/
structure Tracer (κ σ : Type) where
  /-- Start to record. -/
  start : Path → Try κ σ RunError (Option TraceFiles)
  /-- Stop to record. -/
  stop : Try κ σ RunError Unit

/-- A tracer that records nothing. -/
def Tracer.none {κ σ : Type} : Tracer κ σ where
  start _ := pure Option.none
  stop := pure ()

end StartupBench
