import StartupBench.RunError

/-!
# Commands

A command is a program with its arguments.  `Programs` is what the benchmark needs of a system to
run one: to start it and let it go, to wait for its end, and to collect what it prints.  `Launcher`
is the same for the benchmarked application, with errors of the run.
-/

namespace StartupBench

/-- A program with its arguments. -/
structure Command where
  program : Path
  arguments : List RawText
  deriving DecidableEq, Repr

/-- The command as it stands in messages: the program and the arguments, with blanks between. -/
def Command.display (c : Command) : String :=
  c.arguments.foldl (fun text a => text ++ " " ++ a.display) c.program.display

/-! ## The end of a program -/

/-- How a program ended. -/
inductive ExitStatus where
  | exited (code : Nat)
  | killed (signal : Nat)
  deriving DecidableEq, Repr

namespace ExitStatus

/-- Whether the program reported no error. -/
def isSuccess (s : ExitStatus) : Bool := s = exited 0

/-- The exit code; a killed program has none. -/
def code? : ExitStatus → Option Int
  | exited code => some code
  | killed _ => none

/-- The names of signals, from number one on. -/
def signalNames : List String :=
  ["HUP", "INT", "QUIT", "ILL", "TRAP", "ABRT", "BUS", "FPE", "KILL", "USR1", "SEGV", "USR2",
   "PIPE", "ALRM", "TERM", "STKFLT", "CHLD", "CONT", "STOP", "TSTP", "TTIN", "TTOU", "URG", "XCPU",
   "XFSZ", "VTALRM", "PROF", "WINCH", "IO", "PWR", "SYS"]

/-- The name of a signal as it stands behind its number, if it has one. -/
def signalName (signal : Nat) : String :=
  match if signal = 0 then none else signalNames[signal - 1]? with
  | some name => " (SIG" ++ name ++ ")"
  | none => ""

/-- The end as it stands in messages. -/
def text : ExitStatus → String
  | exited code => "exit status: " ++ toString code
  | killed signal => "signal: " ++ toString signal ++ signalName signal

end ExitStatus

/-! ## Running programs -/

/-- What a program printed. -/
structure Printed where
  status : ExitStatus
  stdout : List UInt8
  stderr : List UInt8
  deriving DecidableEq, Repr

/-- How programs are run over a world `σ`. -/
structure Programs (κ σ : Type) where
  /-- Start a program in a session of its own and let it go. -/
  start : Command → Try κ σ IoError ProcessId
  /-- Run a program to its end. -/
  run : Command → Try κ σ IoError ExitStatus
  /-- Run a program to its end and collect what it prints. -/
  collect : Command → Try κ σ IoError Printed

/-- Programs that are run on a part of the world. -/
def Programs.within {κ σ τ : Type} (get : τ → σ) (put : σ → τ → τ) (p : Programs κ σ) :
    Programs κ τ where
  start c := Try.within get put (p.start c)
  run c := Try.within get put (p.run c)
  collect c := Try.within get put (p.collect c)

/-- How the benchmarked application is started over a world `σ`. -/
structure Launcher (κ σ : Type) where
  /-- Start the application and let it go. -/
  launch : Command → Try κ σ RunError Unit
  /-- Run the application to its end. -/
  run : Command → Try κ σ RunError (Option Int)

/-- A launcher that runs programs of the system. -/
def Launcher.ofPrograms {κ σ : Type} (p : Programs κ σ) : Launcher κ σ where
  launch c := do
    Try.log .info .launch ("Launching command line [" ++ c.display ++ "]")
    let pid ← Try.mapError RunError.io (p.start c)
    Try.log .debug .launch ("Launched pid " ++ pid.text)
  run c := do
    Try.log .info .launch ("Running command line [" ++ c.display ++ "]")
    let status ← Try.mapError RunError.io (p.run c)
    Try.log .debug .launch ("Command exited with " ++ status.text)
    pure status.code?

end StartupBench
