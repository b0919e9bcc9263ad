import StartupBench.Machine.Executable
import StartupBench.Shell.Interpreter

/-!
# Running programs on a machine

A program that is run to its end prints where the benchmark prints, or into the hands of the
benchmark; what a program prints that was let go is seen by nobody, and no time passes for it.
-/

namespace StartupBench.Machine

/-! ## Interrupts -/

/-- Interrupt the program.  The first time only the flag is raised. -/
def interrupt : Act Halt Machine Unit := do
  if (← Act.world).raised then Act.stop .forced
  else
    Act.update fun m => { m with raised := true }
    Act.console
      "\nInterrupt requested, finishing current step (Ctrl+C again to force exit)\n"

/-- Interrupt the program so many times. -/
def interrupts : Nat → Act Halt Machine Unit
  | 0 => pure ()
  | n + 1 => do
    interrupt
    interrupts n

/-! ## Applications and tools -/

/-- The first argument by which an application is told to make the directory that the second one
names, and to do nothing else. -/
def makeDirectoryFlag : RawText := "-CreateProfile"

/-- The directory that an application is told to make. -/
def directoryToMake? (arguments : List RawText) : Option Path :=
  match arguments with
  | flag :: directory :: _ => if flag = makeDirectoryFlag then some ⟨directory⟩ else none
  | _ => none

/-- Note a call and answer how many there were before. -/
def note (l : Location) (arguments : List RawText) : Act Halt Machine Nat :=
  Act.step fun m =>
    ((m.callsAt l).length, { m with calls := m.calls.push (l, arguments) })

/-- Make the directory that an application is told to make. -/
def makeDirectory (directory : Path) : Act Halt Machine Unit :=
  Act.update fun m => { m with files := (m.files.makeDirectoriesAlong directory).1, latest := none }

/-- One call of a tool. -/
def callTool (l : Location) (calls : List ToolCall) (arguments : List RawText) :
    Act Halt Machine ToolCall := do
  let n ← note l arguments
  let call := (calls[n]?).getD {}
  interrupts call.interrupts
  pure call

/-! ## Sessions of the shell -/

/-- The session in which a script runs. -/
def session (m : Machine) : Shell.Session :=
  let s : Shell.Session :=
    { files := m.files, name := "sh", bindings := m.environment
      exported := m.environment.map (·.1), own := m.pidAfter 0, parent := m.own }
  s.bind "PWD" (Shell.Builtin.workingDirectory s)

/-- Run a session to its end. -/
def runSession (f : Shell.Session → ExitStatus × Shell.Session) : Act Halt Machine Printed := do
  let (status, s) ← Act.step fun m =>
    let (status, s) := f m.session
    ((status, s), { m with
      files := { s.files with cwd := m.files.cwd }, clock := later m.clock s.slept })
  interrupts s.interrupts
  pure ⟨status, s.stdout.toList.flatten, s.stderr.toList.flatten⟩

/-! ## Running to the end -/

/-- Run a program to its end. -/
def runToEnd (i : Invocation) : Act Halt Machine Printed := do
  match i.behavior with
  | .shell => runSession (Shell.invoke i.arguments)
  | .utility name => runSession (Shell.runAlone name i.arguments)
  | .runner => pure ⟨.exited 0, [], []⟩
  | .always code complaint => pure ⟨.exited code.toNat, [], Utf8.encode complaint⟩
  | .tool calls =>
    let call ← callTool i.location calls i.arguments
    pure ⟨.exited call.code.toNat, call.stdout, call.stderr⟩
  | .application _ =>
    let _ ← note i.location i.arguments
    match directoryToMake? i.arguments with
    | some directory => makeDirectory directory
    | none => Act.update fun m => { m with clock := later m.clock lifetime }
    pure ⟨.exited 0, [], []⟩

/-- Do something for which no time passes. -/
def beside {α : Type} (x : Act Halt Machine α) : Act Halt Machine α := do
  let now ← Act.reading Machine.clock
  let a ← x
  Act.update fun m => { m with clock := now }
  pure a

/-- Start a program and let it go. -/
def startAlone (i : Invocation) (c : Command) : Act Halt Machine ProcessId := do
  match i.behavior, directoryToMake? i.arguments with
  | .application a, none =>
    let _ ← note i.location i.arguments
    Act.step fun m => m.startApplication a c
  | _, _ =>
    let printed ← beside (runToEnd i)
    Act.step fun m => m.startEnded c printed.status

/-- Show what a program printed. -/
def passOn (printed : Printed) : Act Halt Machine Unit := do
  Act.update fun m => { m with stdout := m.stdout ++ Utf8.lossy printed.stdout }
  Act.console (Utf8.lossy printed.stderr)

/-- The programs of a machine.  A program that is let go is run as a script if it cannot be run
otherwise. -/
def programs : Programs Halt Machine where
  start c := do
    let i ← Try.ofExcept ((← Try.world).invocation true c)
    Try.lift (startAlone i c)
  run c := do
    let i ← Try.ofExcept ((← Try.world).invocation false c)
    Try.lift do
      let printed ← runToEnd i
      passOn printed
      pure printed.status
  collect c := do
    let i ← Try.ofExcept ((← Try.world).invocation false c)
    Try.lift (runToEnd i)

end StartupBench.Machine
