import StartupBench.Machine.System
import StartupBench.Program

/-!
# Running the program on a machine

What is seen of the program from outside: its exit code, what it writes and the machine it leaves.
-/

namespace StartupBench.Machine

/-- What is seen of a run of the program. -/
structure Execution where
  code : Nat
  /-- What the user sees beside the standard output. -/
  stderr : String
  /-- The machine after the run; the standard output is part of it. -/
  machine : Machine

/-- The exit code of a program that panics. -/
def panicCode : Nat := 101

/-- The exit code of a program that is aborted, as a shell reports it. -/
def abortCode : Nat := 134

/-- The exit code that belongs to the way out of the program. -/
def exitCode : Outcome Halt Nat → Nat
  | .returned code => code
  | .panicked _ => panicCode
  | .stopped .aborted => abortCode
  | .stopped (.because _) => forcedCode

/-- Run the program on a machine.  The programs that it runs get its environment; every log line
bears the same time. -/
def execute (m : Machine) (sys : System Halt Machine) (words : List RawText) (time : String) :
    Execution :=
  let r := Program.run sys words { m with environment := sys.surroundings.env }
  let said := Program.screen sys.surroundings.env words time r.notices
  { code := exitCode r.outcome
    stderr := match r.outcome with
      | .panicked message => said ++ "panicked: " ++ message ++ "\n"
      | _ => said
    machine := r.world }

end StartupBench.Machine
