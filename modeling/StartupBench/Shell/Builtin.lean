import StartupBench.Shell.Expansion
import StartupBench.Shell.Print
import StartupBench.Shell.Test
import StartupBench.Shell.Utility

/-!
# Commands of the shell itself

Commands that look at the session or change it.  Each gets its arguments and answers a status.
-/

namespace StartupBench.Shell

namespace Builtin

/-! ## Leaving -/

/-- A number that is written as an argument; anything else ends the session. -/
def number (name : String) (a : RawText) : Run Nat := do
  let digits := a.display.toList
  if digits.isEmpty || !digits.all Char.isDigit then
    fail (name ++ ": Illegal number: " ++ a.display)
  else pure ((a.display.toNat?).getD 0)

/-- End the session. -/
def exit (arguments : List RawText) : Run Nat := do
  match arguments with
  | [] => throw (.ended (.exited (← get).status))
  | a :: _ => throw (.ended (.exited ((← number "exit" a) % 256)))

/-- End a function, or the session outside of functions. -/
def return_ (arguments : List RawText) : Run Nat := do
  let s ← get
  let status ← match arguments with
    | [] => pure s.status
    | a :: _ => number "return" a
  if s.inFunction then throw (.returned status)
  else throw (.ended (.exited (status % 256)))

/-- End or continue loops. -/
def jump (name : String) (leaving : Nat → Leaving) (arguments : List RawText) : Run Nat := do
  let loops := (← get).loops
  let wanted ← match arguments with
    | [] => pure 1
    | a :: _ => number name a
  if wanted = 0 then fail (name ++ ": Illegal number: 0")
  else if loops = 0 then pure 0
  else throw (leaving (min wanted loops))

/-! ## Variables and arguments -/

/-- The name and the value of a word that sets a variable. -/
def assignment? (t : RawText) : Option (String × RawText) :=
  let (name, rest) := t.bytes.span (· != 0x3D)
  let name := Utf8.lossy name
  if rest.isEmpty || !isName name then none else some (name, ⟨rest.drop 1⟩)

/-- Set the variables that arguments set, and do something for each name. -/
def declare (kind : String) (note : String → Run Unit) (arguments : List RawText) : Run Nat := do
  for a in (Utility.takeOptions arguments).2 do
    match assignment? a with
    | some (name, value) =>
      assign name value
      note name
    | none =>
      if isName a.display then note a.display
      else fail (kind ++ ": " ++ a.display ++ ": bad variable name")
  pure 0

/-- Forget variables, or functions if an option says so. -/
def unset (arguments : List RawText) : Run Nat := do
  let (options, names) := Utility.takeOptions arguments
  for a in names do
    let name := a.display
    if Utility.hasOption 'f' options then
      modify fun s => { s with functions := s.functions.filter fun f => f.1 ≠ name }
    else if (← get).fixed.contains name then fail ("unset: " ++ name ++ ": is read only")
    else modify fun s => s.unbind name
  pure 0

/-- Keep the value of a variable that a function is to have for itself. -/
def local_ (arguments : List RawText) : Run Nat := do
  if !(← get).inFunction then fail "local: not in a function"
  else
    for a in arguments do
      let name := ((assignment? a).map (·.1)).getD a.display
      modify fun s => { s with kept := (name, s.bindings.lookup name) :: s.kept }
      if let some (name, value) := assignment? a then assign name value
    pure 0

/-- Forget the first arguments. -/
def shift (arguments : List RawText) : Run Nat := do
  let count ← match arguments with
    | [] => pure 1
    | a :: _ => number "shift" a
  let s ← get
  if s.arguments.length < count then fail "shift: can't shift that many"
  else
    set { s with arguments := s.arguments.drop count }
    pure 0

/-- Change how the session runs by the letter of a mode.  Answers whether there is such a mode. -/
def setMode (on : Bool) (letter : Char) : Run Bool := do
  match letter with
  | 'e' => modify fun s => { s with strict := on }
  | 'u' => modify fun s => { s with careful := on }
  | 'x' => modify fun s => { s with showing := on }
  | 'f' => modify fun s => { s with literal := on }
  | _ => pure ()
  pure ("eufxabChImnvVE".toList.contains letter)

/-- The sign in front of a mode. -/
def modeSign (on : Bool) : String := if on then "-" else "+"

/-- Change how the session runs by the letters of an option. -/
def setModes (on : Bool) (letters : List Char) : Run Unit := do
  for letter in letters do
    if !(← setMode on letter) then
      fail ("set: Illegal option " ++ modeSign on ++ String.singleton letter)

/-- The letters of modes by their names. -/
def modeNames : List (String × Char) :=
  [("allexport", 'a'), ("emacs", 'E'), ("errexit", 'e'), ("ignoreeof", 'I'), ("monitor", 'm'),
   ("noclobber", 'C'), ("noexec", 'n'), ("noglob", 'f'), ("notify", 'b'), ("nounset", 'u'),
   ("verbose", 'v'), ("vi", 'V'), ("xtrace", 'x')]

/-- Change how the session runs by the name of a mode. -/
def setNamed (on : Bool) (name : String) : Run Unit := do
  match modeNames.lookup name with
  | some letter => let _ ← setMode on letter
  | none => fail ("set: Illegal option " ++ modeSign on ++ "o " ++ name)

/-- Change how the session runs by an option, which may need a name.  Answers what stands behind. -/
def setOption (on : Bool) (letters : List Char) (rest : List RawText) : Run (List RawText) := do
  setModes on (letters.filter (· ≠ 'o'))
  match letters.contains 'o', rest with
  | true, name :: rest =>
    setNamed on name.display
    pure rest
  | _, _ => pure rest

/-- Change how the session runs, and its arguments. -/
def setAll : (fuel : Nat) → List RawText → Run Nat
  | fuel + 1, a :: rest => do
    match a.display.toList with
    | ['-', '-'] =>
      modify fun s => { s with arguments := rest }
      pure 0
    | '-' :: c :: letters => setAll fuel (← setOption true (c :: letters) rest)
    | '+' :: c :: letters => setAll fuel (← setOption false (c :: letters) rest)
    | _ =>
      modify fun s => { s with arguments := a :: rest }
      pure 0
  | _, _ => pure 0

/-! ## Reading -/

/-- A line of what can be read, and whether it is complete.  Behind a backslash the end of a line
does not count. -/
def takeLine (raw : Bool) : (fuel : Nat) → List UInt8 → List UInt8 → List UInt8 × List UInt8 × Bool
  | 0, rest, seen => (seen.reverse, rest, false)
  | _, [], seen => (seen.reverse, [], false)
  | fuel + 1, 0x5C :: b :: rest, seen =>
    if raw then takeLine raw fuel (b :: rest) (0x5C :: seen)
    else if b == 0x0A then takeLine raw fuel rest seen
    else takeLine raw fuel rest (b :: seen)
  | fuel + 1, b :: rest, seen =>
    if b == 0x0A then (seen.reverse, rest, true) else takeLine raw fuel rest (b :: seen)

/-- Set variables to the fields of a line; the last one gets the rest. -/
def setFields (separators : List UInt8) : List RawText → List UInt8 → Run Unit
  | [], _ => pure ()
  | [name], line => do
    let blank (b : UInt8) : Bool := separators.contains b && Fields.isBlank b
    let value := ((line.dropWhile blank).reverse.dropWhile blank).reverse
    assign name.display ⟨value⟩
  | name :: rest, line => do
    let blank (b : UInt8) : Bool := separators.contains b && Fields.isBlank b
    let (field, line) := (line.dropWhile blank).span fun b => !separators.contains b
    let behind := line.dropWhile blank
    let behind := match behind with
      | b :: more => if separators.contains b && !blank b then more else behind
      | [] => []
    assign name.display ⟨field⟩
    setFields separators rest behind

/-- Read a line into variables. -/
def read (arguments : List RawText) : Run Nat := do
  let (options, names) := Utility.takeOptions arguments
  if names.isEmpty then
    complain "read: arg count"
    pure 2
  else
    let s ← get
    let raw := Utility.hasOption 'r' options
    let (line, rest, complete) := takeLine raw (s.input.length + 1) s.input []
    set { s with input := rest }
    setFields s.separators names line
    pure (if complete then 0 else 1)

/-! ## Places and processes -/

/-- The path of the working directory. -/
def workingDirectory (s : Session) : RawText :=
  match s.files.cwd with
  | [] => "/"
  | names => ⟨names.flatMap fun name => Path.slash :: name⟩

/-- Say where the session is. -/
def sayWhere : Run Nat := do
  printFrom "pwd" ((workingDirectory (← get)).bytes ++ [0x0A])

/-- Go to another directory. -/
def changeDirectory (arguments : List RawText) : Run Nat := do
  let s ← get
  let paths := (Utility.takeOptions arguments).2
  let target := match paths with
    | [] => s.value? "HOME"
    | p :: _ => if p = "-" then s.value? "OLDPWD" else some p
  match target with
  | none => pure 0
  | some p =>
    match s.files.find ⟨p⟩ with
    | .ok place =>
      if place.here.isDirectory then
        let before := workingDirectory s
        let s := { s with files := { s.files with cwd := place.location } }
        set ((s.bind "OLDPWD" before).bind "PWD" (workingDirectory s))
        if paths = [("-" : RawText)] then sayWhere else pure 0
      else
        complain ("cd: can't cd to " ++ p.display)
        pure 2
    | .error _ =>
      complain ("cd: can't cd to " ++ p.display)
      pure 2

/-! ## Signals -/

/-- How many signals there are, and one more. -/
def signalCount : Nat := 65

/-- The number of a signal. -/
def signal? (text : String) : Option Nat :=
  match text.toNat? with
  | some n => if n < signalCount then some n else none
  | none =>
    if text.toUpper = "EXIT" then some 0
    else (ExitStatus.signalNames.idxOf? text.toUpper).map (· + 1)

/-- The name of a signal. -/
def signalName (n : Nat) : String :=
  if n = 0 then "EXIT" else (ExitStatus.signalNames[n - 1]?).getD (toString n)

/-- The signals by which the program can be interrupted. -/
def interrupting : List Nat := [1, 2, 15]

/-- The signal that is sent if none is named. -/
def terminating : Nat := 15

/-- The signals that nothing can catch. -/
def uncatchable : List Nat := [9, 19]

/-- Send a signal to a process. -/
def send (signal : Nat) (pid : RawText) : Run Bool := do
  let s ← get
  if pid = (toString s.own.number : String) then
    match if uncatchable.contains signal then none else s.traps.lookup signal with
    | some action =>
      if !action.isEmpty then set { s with caught := s.caught ++ [signal] }
      pure true
    | none => if signal = 0 then pure true else throw (.ended (.killed signal))
  else if pid = (toString s.parent.number : String) then
    if interrupting.contains signal then set { s with interrupts := s.interrupts + 1 }
    pure true
  else
    complain "kill: No such process\n"
    pure false

/-- Send a signal to processes, up to a text that names none. -/
def sendAll (signal : Nat) : (status : Nat) → List RawText → Run Nat
  | status, [] => pure status
  | status, p :: rest => do
    let digits := p.display.toList
    let digits := if digits.head? = some '-' then digits.tail else digits
    if digits.isEmpty || !digits.all Char.isDigit then
      complain (if digits.head? = some '%' then "kill: No such job: " ++ p.display
        else "kill: Illegal number: " ++ String.ofList digits)
      pure 2
    else if ← send signal p then sendAll signal status rest
    else sendAll signal 1 rest

/-- Say how signals are sent. -/
def killUsage : Run Nat := do
  complain ("kill: Usage: kill [-s sigspec | -signum | -sigspec] [pid | job]... or\n" ++
    "kill -l [exitstatus]")
  pure 2

/-- The name of the signal that a status stands for. -/
def listSignals (arguments : List RawText) : Run Nat := do
  match arguments with
  | [] =>
    for n in List.range signalCount do
      printText ((if n = 0 then "0" else signalName n) ++ "\n")
    pure 0
  | a :: _ =>
    match a.display.toNat? with
    | none =>
      complain ("kill: Illegal number: " ++ a.display)
      pure 2
    | some n =>
      let signal := if 128 < n then n - 128 else n
      if 0 < signal && signal < signalCount then
        printText (signalName signal ++ "\n")
        pure 0
      else
        complain ("kill: invalid signal number or exit status: " ++ a.display)
        pure 2

/-- Send signals to processes. -/
def kill (arguments : List RawText) : Run Nat := do
  let sendTo (signal : Nat) (pids : List RawText) : Run Nat :=
    if pids.isEmpty then killUsage else sendAll signal 0 pids
  match arguments with
  | [] => killUsage
  | a :: rest =>
    match a.display.toList with
    | ['-', '-'] => sendTo terminating rest
    | ['-', 'l'] => listSignals rest
    | ['-', 's'] =>
      match rest with
      | [] =>
        complain "kill: No arg for -s option"
        pure 2
      | name :: pids =>
        match signal? name.display with
        | some signal => sendTo signal pids
        | none =>
          complain ("kill: invalid signal number or name: " ++ name.display)
          pure 2
    | '-' :: c :: more =>
      match signal? (String.ofList (c :: more)) with
      | some signal => sendTo signal rest
      | none =>
        complain ("kill: Illegal option -" ++ String.singleton c)
        pure 2
    | _ => sendTo terminating arguments

/-- A text between single quotes. -/
def singleQuoted (text : String) : String :=
  "'" ++ "'\"'\"'".intercalate (text.splitOn "'") ++ "'"

/-- Say what is run when signals come. -/
def listTraps : Run Nat := do
  let traps := (← get).traps
  for n in List.range signalCount do
    if let some action := traps.lookup n then
      printText ("trap -- " ++ singleQuoted action ++ " " ++ signalName n ++ "\n")
  pure 0

/-- Set what is run when signals come; without an action nothing is. -/
def setTraps (action : Option String) : List RawText → Run Nat
  | [] => pure 0
  | a :: rest => do
    match signal? a.display with
    | none =>
      say ("trap: " ++ a.display ++ ": bad trap")
      pure 1
    | some signal =>
      modify fun s =>
        let others := s.traps.filter fun t => t.1 ≠ signal
        { s with traps := (action.toList.map fun text => (signal, text)) ++ others }
      setTraps action rest

/-- Say or set what is run when signals come. -/
def trap (arguments : List RawText) : Run Nat := do
  let words := match arguments with
    | a :: rest => if a = "--" then rest else arguments
    | [] => []
  match words with
  | [] => listTraps
  | [_] => setTraps none words
  | action :: signals =>
    if (signal? action.display).isSome && action.display.toNat?.isSome then setTraps none words
    else if action = "-" then setTraps none signals
    else setTraps (some action.display) signals

/-! ## All of them -/

/-- The other commands of the shell. -/
def ordinary : List String :=
  ["[", "cd", "command", "echo", "false", "hash", "kill", "local", "printf", "pwd", "read", "test",
   "true", "type", "ulimit", "umask", "wait"]

/-- The commands of the shell that are programs as well. -/
def programs : List String := ["[", "echo", "false", "kill", "printf", "pwd", "test", "true"]

/-- The command of a name, if it is one of the shell that runs no other. -/
def byName? (name : String) (arguments : List RawText) : Option (Run Nat) :=
  match name with
  | ":" | "true" | "times" | "ulimit" | "hash" => some (pure 0)
  | "wait" => some (pure (if arguments.isEmpty then 0 else 127))
  | "umask" =>
    some do
      if arguments.isEmpty then printText "0022\n"
      pure 0
  | "false" => some (pure 1)
  | "exit" => some (exit arguments)
  | "return" => some (return_ arguments)
  | "break" => some (jump name .broken arguments)
  | "continue" => some (jump name .continued arguments)
  | "export" =>
    some (declare name (fun x => modify fun s => { s with exported := x :: s.exported }) arguments)
  | "readonly" =>
    some (declare name (fun x => modify fun s => { s with fixed := x :: s.fixed }) arguments)
  | "unset" => some (unset arguments)
  | "local" => some (local_ arguments)
  | "shift" => some (shift arguments)
  | "set" => some (setAll arguments.length arguments)
  | "test" => some (testStatus name arguments)
  | "[" =>
    if arguments.getLast? = some ("]" : RawText) then
      some (testStatus name arguments.dropLast)
    else
      some do
        complain "[: missing ]"
        pure 2
  | "echo" => some (echo arguments)
  | "printf" => some (printFormat arguments)
  | "read" => some (read arguments)
  | "cd" => some (changeDirectory arguments)
  | "pwd" => some sayWhere
  | "kill" => some (kill arguments)
  | "trap" => some (trap arguments)
  | _ => none

end Builtin

end StartupBench.Shell
