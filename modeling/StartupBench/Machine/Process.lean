import StartupBench.Command
import StartupBench.Interrupt

/-!
# Processes of a machine

A process exits by itself when its time has come, unless it is made to end before.  A process that
the program started itself stays on the machine after its end, until the program asks after it; any
other is gone as soon as it has ended.
-/

namespace StartupBench.Machine

/-- What a process does when it is asked to terminate. -/
inductive Reaction where
  | dies
  | exits (code : UInt8)
  | stays
  deriving DecidableEq, Repr

/-- A process. -/
structure Process where
  pid : ProcessId
  /-- Whether the program started it itself. -/
  ours : Bool
  reaction : Reaction
  /-- When it exits by itself. -/
  due : Instant
  /-- How it was made to end. -/
  ending : Option ExitStatus := none
  /-- Its command, as the process table shows it. -/
  command : Command
  deriving Repr

namespace Process

/-- How the process has ended, if it has. -/
def ended? (p : Process) (now : Instant) : Option ExitStatus :=
  match p.ending with
  | some e => some e
  | none => if p.due ≤ now then some (.exited 0) else none

/-- Whether the process is still on the machine. -/
def isThere (p : Process) (now : Instant) : Bool := p.ours || (p.ended? now).isNone

/-- The process after it was made to end, unless it has ended already. -/
def finish (p : Process) (now : Instant) (e : ExitStatus) : Process :=
  if (p.ended? now).isSome then p else { p with ending := some e }

/-- The number of the signal that asks a process to terminate. -/
def terminateSignal : Nat := 15

/-- The number of the signal that ends a process whatever it does. -/
def killSignal : Nat := 9

/-- The process after it was asked to terminate. -/
def askToEnd (p : Process) (now : Instant) : Process :=
  match p.reaction with
  | .dies => p.finish now (.killed terminateSignal)
  | .exits code => p.finish now (.exited code.toNat)
  | .stays => p

/-- The line of the process table: the number, the state and the words of the command. -/
def line (p : Process) : RawText :=
  let start : RawText := p.pid.text ++ " S"
  let stop : RawText := "\n"
  let words := p.command.program.raw :: p.command.arguments
  words.foldl (fun text word => text ++ (" " : RawText) ++ word) start ++ stop

end Process

end StartupBench.Machine
