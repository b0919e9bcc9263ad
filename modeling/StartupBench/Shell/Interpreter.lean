import StartupBench.Shell.Builtin

/-!
# The shell

`Shell.run` runs a script, `Shell.runAlone` one command, and `Shell.invoke` does what the words of a
command line of the shell say.
-/

namespace StartupBench.Shell

/-- How statements are run. -/
abbrev Execution := Statement → Run Unit

/-! ## Scripts -/

/-- Run the lines of a script, one after the other. -/
def runLines (execute : Execution) : (fuel : Nat) → List Located → Run Unit
  | 0, _ => pure ()
  | fuel + 1, ts => do
    match ts with
    | [] => pure ()
    | [⟨_, .finish⟩] => pure ()
    | _ =>
      match Statement.readLine ts with
      | .ok (statement, rest) =>
        execute statement
        runLines execute fuel rest
      | .error fault =>
        modify fun s => { s with line := fault.line, traps := [] }
        fail ("Syntax error: " ++ fault.message)

/-- Run the text of a script. -/
def runText (execute : Execution) (text : String) : Run Unit := do
  let ts := tokens text
  if ts.all fun t => t.token = .lineEnd || t.token = .finish then
    modify fun s => { s with status := 0 }
  else runLines execute (ts.length + 1) ts

/-! ## Traps -/

/-- Run what is to be run when signals come that came. -/
def runTraps (execute : Execution) : Run Unit := do
  let before ← get
  if !before.caught.isEmpty then
    set { before with caught := [] }
    for signal in before.caught do
      if let some action := before.traps.lookup signal then
        runText execute action
        modify fun s => { s with status := before.status }

/-- Run a session to its end, and then what is to be run there. -/
def toItsEnd (execute : Execution) (x : Run Unit) : Run Unit := do
  let leaving ← try
      x
      pure (Leaving.ended (.exited (← get).status))
    catch leaving => pure leaving
  let status ← match leaving with
    | .ended (.exited status) => pure status
    | .ended (.killed _) => throw leaving
    | .returned status => pure status
    | _ => pure (← get).status
  if let some action := (← get).traps.lookup 0 then
    modify fun s => { s with status, traps := s.traps.filter fun t => t.1 ≠ 0 }
    runText execute action
  throw (.ended (.exited status))

/-- What a script prints that stands in a word. -/
def outputOf (execute : Execution) (script : String) : Run (List UInt8) := do
  let before ← get
  let printed ← captured (toItsEnd execute (runText execute script))
  modify fun s => { s with line := before.line, status := before.status, outputStatus := s.status }
  pure printed

/-! ## Redirections -/

/-- Why a file cannot be opened. -/
def openProblem (missing : String) : IoError → String
  | .os .noEntry => missing
  | .os .notADirectory => missing
  | e => Utility.reason e

/-- Prepare a file for printing. -/
def openFile (number : Nat) (p : Path) (keep : Bool) : Run Bool := do
  let s ← get
  if p = nullDevice then
    set (s.withStream number .nowhere)
    pure true
  else
    let content := if keep then (s.files.content? p).getD [] else []
    match s.files.write p content with
    | .error e =>
      complain ("cannot create " ++ p.display ++ ": " ++ openProblem "Directory nonexistent" e)
      pure false
    | .ok files =>
      match files.find p with
      | .ok place => set ({ s with files }.withStream number (.file place.location))
      | .error _ => set { s with files }
      pure true

/-- Let a stream lead where a redirection says; answers whether that is possible. -/
def redirect (output : String → Run (List UInt8)) (r : Redirection) : Run Bool := do
  let target ← text output r.target
  match r.direction with
  | .here content =>
    let bytes := (← text output content).bytes
    modify fun s => { s with input := bytes }
    pure true
  | .duplicate =>
    let s ← get
    if target = "-" then
      set { s with streams := s.streams.filter fun e => e.1 ≠ r.stream }
      pure true
    else
      match target.display.toNat?.bind s.stream? with
      | some stream =>
        set (s.withStream r.stream stream)
        pure true
      | none =>
        if r.stream = 0 then pure true
        else
          complain (target.display ++ ": Bad file descriptor")
          pure false
  | .input =>
    let s ← get
    match s.files.find ⟨target⟩ with
    | .ok place =>
      set { s with input := (match place.here with
        | .file content _ => content
        | .directory _ => []) }
      pure true
    | .error e =>
      complain ("cannot open " ++ target.display ++ ": " ++ openProblem "No such file" e)
      pure false
  | .output => openFile r.stream ⟨target⟩ false
  | .append => openFile r.stream ⟨target⟩ true

/-- Follow redirections up to one that is not possible. -/
def redirectAll (output : String → Run (List UInt8)) : List Redirection → Run Bool
  | [] => pure true
  | r :: rest => do
    if ← redirect output r then redirectAll output rest else pure false

/-- Run something with redirections, which are taken back at its end.  `grave` says whether the
session ends if one is not possible. -/
def redirected (output : String → Run (List UInt8)) (grave : Bool)
    (redirections : List Redirection) (body : Run Unit) : Run Unit := do
  let before ← get
  let reads := redirections.any fun r => r.stream = 0
  let restore : Run Unit := modify fun s =>
    { s with streams := before.streams, input := if reads then before.input else s.input }
  try
    if ← redirectAll output redirections then body
    else if grave then throw (.ended (.exited 2))
    else modify fun s => { s with status := 2 }
    restore
  catch leaving =>
    restore
    throw leaving

/-! ## Commands -/

/-- The variable and the value of a word that sets one. -/
def assignment? (w : Word) : Option (String × Word) :=
  match w with
  | .text t false :: rest =>
    let (name, value) := t.toList.span (· != '=')
    let name := String.ofList name
    if value.isEmpty || !isName name then none
    else some (name, .text (String.ofList (value.drop 1)) false :: rest)
  | _ => none

/-- The assignments in front of a command, and its other words. -/
def splitAssignments : List Word → List (String × Word) × List Word
  | [] => ([], [])
  | w :: rest =>
    match assignment? w with
    | some a =>
      let (assignments, words) := splitAssignments rest
      (a :: assignments, words)
    | none => ([], w :: rest)

/-- Run a function. -/
def call (execute : Execution) (body : Statement) (arguments : List RawText) : Run Unit := do
  let before ← get
  set { before with arguments, inFunction := true, kept := [], loops := 0 }
  let restore : Run Unit := modify fun s =>
    let s := s.kept.foldl (fun s (name, value) => match value with
      | some v => s.bind name v
      | none => s.unbind name) s
    { s with
      arguments := before.arguments, inFunction := before.inFunction, kept := before.kept
      loops := before.loops }
  try
    execute body
    restore
  catch leaving =>
    restore
    match leaving with
    | .returned status => modify fun s => { s with status }
    | _ => throw leaving

/-! ## Other programs -/

/-- The directories of programs that the shell knows. -/
def programDirectories : List String := ["/bin/", "/usr/bin/"]

/-- The names of the shell. -/
def names : List String := ["sh", "dash"]

/-- Read the options of the shell, and answer their letters and what stands behind them. -/
def readOptions (options : List Char) : List RawText → Run (List Char × List RawText)
  | [] => pure (options, [])
  | w :: rest => do
    match w.display.toList with
    | ['-', '-'] => pure (options, rest)
    | ['-'] => pure (options, rest)
    | '-' :: letters =>
      for letter in letters do
        if !(← Builtin.setMode true letter) && !"cs".toList.contains letter then
          fail ("Illegal option -" ++ String.singleton letter)
      readOptions (options ++ letters) rest
    | _ => pure (options, w :: rest)

/-- Do what the words behind the name of the shell say: options, and then the name of a script, or
the text of one, with its arguments. -/
def obey (execute : Execution) (words : List RawText) : Run Unit := do
  modify fun s => { s with line := 0 }
  let (options, words) ← readOptions [] words
  let runInput : Run Unit := do
    let text := (← get).input
    modify fun s => { s with input := [] }
    runText execute (Utf8.lossy text)
  match words with
  | [] => if options.contains 'c' then fail "-c requires an argument" else runInput
  | first :: arguments =>
    if options.contains 'c' then
      modify fun s =>
        { s with name := arguments.head?.getD s.name, arguments := arguments.drop 1 }
      runText execute first.display
    else if options.contains 's' then
      modify fun s => { s with arguments := words }
      runInput
    else
      match (← get).files.content? ⟨first⟩ with
      | some text =>
        modify fun s => { s with name := first, arguments }
        runText execute (Utf8.lossy text)
      | none => fail ("cannot open " ++ first.display ++ ": No such file")

/-- Run the shell as another program. -/
def runShell (execute : Execution) (name : RawText) (words : List RawText) : Run Nat :=
  apart do
    modify fun s =>
      { s with
        name, arguments := [], functions := [], fixed := []
        bindings := s.bindings.filter fun v => s.exported.contains v.1
        own := ⟨s.own.number + 1⟩, parent := s.own
        strict := false, careful := false, showing := false, literal := false
        inFunction := false }
    toItsEnd execute (obey execute words)

/-- The name of a program in one of the directories that the shell knows. -/
def knownName? (path : String) : Option String :=
  programDirectories.findSome? fun (directory : String) =>
    if path.startsWith directory then some (path.drop directory.length).toString else none

/-- The first line of a script, if it names a program. -/
def firstLine? (script : List UInt8) : Option String :=
  match script with
  | 0x23 :: 0x21 :: rest => some (Utf8.lossy (rest.takeWhile (· != 0x0A))).trimAscii.toString
  | _ => none

/-- Run an executable file as a script. -/
def runScript (execute : Execution) (path : RawText) (script : List UInt8)
    (arguments : List RawText) : Run Nat := do
  let name := path.display
  let line := (firstLine? script).getD "/bin/sh"
  match (line.splitOn " ").filter (· ≠ "") with
  | interpreter :: options =>
    if (knownName? interpreter).any names.contains then
      runShell execute path (options.map RawText.ofString ++ path :: arguments)
    else
      complain (name ++ ": not found")
      pure 127
  | [] => runShell execute path (path :: arguments)

/-- Run a program that is named by its path.  `label` stands in front of complaints. -/
def runProgram (execute : Execution) (label : String) (path : RawText)
    (arguments : List RawText) : Run Nat := do
  let name := path.display
  let known := (knownName? name).bind fun program =>
    if names.contains program then some (runShell execute path arguments)
    else
      match Utility.byName? program with
      | some command => some (command arguments)
      | none => Builtin.byName? program arguments
  let missing : Run Nat := do
    complain (label ++ name ++ ": not found")
    pure 127
  match known, (← get).files.find ⟨path⟩ with
  | some command, _ => command
  | none, .error (.os .noEntry) => missing
  | none, .error (.os .notADirectory) => missing
  | none, .ok ⟨.file script true, _⟩ => runScript execute path script arguments
  | none, _ => do
    complain (label ++ name ++ ": Permission denied")
    pure 126

/-- Run a program by its name. -/
def runNamed (execute : Execution) (label : String) (name : RawText) (arguments : List RawText) :
    Run Nat := do
  let shown := name.display
  match Utility.byName? shown with
  | some command => command arguments
  | none =>
    if names.contains shown then runShell execute name arguments
    else if name.bytes.contains Path.slash then runProgram execute label name arguments
    else
      complain (label ++ shown ++ ": not found")
      pure 127

/-- Run a program in place of the session. -/
def replaceBy (execute : Execution) (name : RawText) (arguments : List RawText) : Run Nat := do
  let traps := (← get).traps
  modify fun s => { s with traps := traps.filter fun t => t.2.isEmpty }
  let status ← match Builtin.byName? name.display arguments with
    | some command =>
      if Builtin.programs.contains name.display then command
      else runNamed execute "exec: " name arguments
    | none => runNamed execute "exec: " name arguments
  if status = 126 || status = 127 then modify fun s => { s with traps }
  throw (.ended (.exited status))

/-! ## Names -/

/-- Run the lines of a file. -/
def source (execute : Execution) (file : RawText) : Run Unit := do
  match (← get).files.content? ⟨file⟩ with
  | some content => runText execute (Utf8.lossy content)
  | none =>
    if file.bytes.contains Path.slash then
      fail (".: cannot open " ++ file.display ++ ": No such file")
    else fail (".: " ++ file.display ++ ": not found")

/-- Run a command that is no function. -/
def perform (execute : Execution) (name : RawText) (arguments : List RawText) : Run Nat := do
  let after (x : Run Unit) : Run Nat := do
    x
    pure (← get).status
  match name.display, arguments with
  | "eval", _ => after (runText execute (" ".intercalate (arguments.map RawText.display)))
  | ".", [] => pure 0
  | ".", file :: _ => after (source execute file)
  | "exec", [] => pure 0
  | "exec", command :: rest => replaceBy execute command rest
  | shown, _ =>
    match Builtin.byName? shown arguments with
    | some command => command
    | none => runNamed execute "" name arguments

/-- How a name is run, in words. -/
def kind? (s : Session) (name : String) : Option String :=
  if Statement.keywords.contains name then some "a shell keyword"
  else if Statement.special.contains name then some "a special shell builtin"
  else if (s.functions.lookup name).isSome then some "a shell function"
  else if Builtin.ordinary.contains name then some "a shell builtin"
  else if Utility.names.contains name || names.contains name then some ("/usr/bin/" ++ name)
  else none

/-- Say how a name is run; answers whether it is known. -/
def describe (short : Bool) (name : String) : Run Bool := do
  match kind? (← get) name with
  | some kind =>
    let path := if kind.startsWith "/" then kind else name
    printText ((if short then path else name ++ " is " ++ kind) ++ "\n")
    pure true
  | none =>
    if !short then printText (name ++ ": not found\n")
    pure false

/-- Say how a name is run. -/
def describeFirst (short : Bool) : List RawText → Run Nat
  | [] => pure 0
  | name :: _ => do
    pure (if ← describe short name.display then 0 else 127)

/-- Say how names are run. -/
def describeAll (names : List RawText) : Run Nat := do
  let status ← Utility.forEach names fun name => describe false name.display
  pure (if status = 0 then 0 else 127)

/-- Run a command, a function or something that runs another. -/
def dispatch (execute : Execution) : List RawText → Run Unit
  | [] => pure ()
  | name :: arguments => do
    let s ← get
    let special := Statement.special.contains name.display
    match if special then none else s.functions.lookup name.display with
    | some body => call execute body arguments
    | none =>
      let status ← match name.display, arguments with
        | "command", [] => pure 0
        | "command", option :: rest =>
          match option.display, rest with
          | "-v", _ => describeFirst true rest
          | "-V", _ => describeFirst false rest
          | "-p", command :: arguments => perform execute command arguments
          | "--", command :: arguments => perform execute command arguments
          | _, _ => perform execute option rest
        | "type", names => describeAll names
        | _, _ => perform execute name arguments
      modify fun s => { s with status }
    runTraps execute

/-- Set variables; answers how that is shown. -/
def assignAll (output : String → Run (List UInt8)) : List (String × Word) → Run (List String)
  | [] => pure []
  | (name, w) :: rest => do
    let value ← text output w
    assign name value
    let more ← assignAll output rest
    pure ((name ++ "=" ++ value.display) :: more)

/-- Show a command before it runs. -/
def showCommand (assignments : List String) (words : List RawText) : Run Unit := do
  let all := assignments ++ words.map RawText.display
  if (← get).showing && !all.isEmpty then say ("+ " ++ " ".intercalate all)

/-- Give variables the values back that they had. -/
def takeBack (before : Session) (names : List String) : Run Unit :=
  modify fun s =>
    let s := names.foldl (fun s name => match before.bindings.lookup name with
      | some value => s.bind name value
      | none => s.unbind name) s
    let given := names.filter fun name => !before.exported.contains name
    { s with exported := s.exported.filter fun name => !given.contains name }

/-- Run one command.  Variables that are set in front of it are so for this command alone, unless
there is none, or it is one whose mistakes end the session. -/
def runCommand (execute : Execution) (words : List Word) (redirections : List Redirection) :
    Run Unit := do
  let output := outputOf execute
  let (assignments, words) := splitAssignments words
  modify fun s => { s with outputStatus := 0 }
  let fields ← expandAll output words
  let special := fields.head?.any fun f => Statement.special.contains f.display
  let body : Run Unit := do
    let before ← get
    showCommand (← assignAll output assignments) fields
    if fields.isEmpty then modify fun s => { s with status := s.outputStatus }
    else
      modify fun s => { s with exported := assignments.map (·.1) ++ s.exported }
      dispatch execute fields
      if !special then takeBack before (assignments.map (·.1))
  if fields = [("exec" : RawText)] then
    if ← redirectAll output redirections then modify fun s => { s with status := 0 }
    else throw (.ended (.exited 2))
  else if redirections.isEmpty then body
  else redirected output special redirections body

/-! ## Statements -/

/-- Whether the last command succeeded. -/
def succeeded : Run Bool := do
  pure ((← get).status = 0)

/-- End a strict session after a command that failed, unless its status is asked for. -/
def check (asked : Bool) : Run Unit := do
  let s ← get
  if s.strict && !asked && s.status ≠ 0 then throw (.ended (.exited s.status))

/-- Run the body of a loop; answers whether the loop goes on. -/
def runBody (body : Run Unit) : Run Bool := do
  modify fun s => { s with loops := s.loops + 1 }
  let restore : Run Unit := modify fun s => { s with loops := s.loops - 1 }
  try
    body
    restore
    pure true
  catch leaving =>
    restore
    match leaving with
    | .broken (n + 2) => throw (.broken (n + 1))
    | .broken _ => pure false
    | .continued (n + 2) => throw (.continued (n + 1))
    | .continued _ => pure true
    | _ => throw leaving

/-- Whether one of some patterns fits. -/
def fitsAny (output : String → Run (List UInt8)) (bytes : List UInt8) : List Word → Run Bool
  | [] => pure false
  | w :: rest => do
    if Glob.matchesAll (← cells output w) bytes then pure true else fitsAny output bytes rest

/-- The body of the first branch that has a pattern which fits. -/
def findBranch (output : String → Run (List UInt8)) (bytes : List UInt8) :
    Statement → Run (Option Statement)
  | .branch patterns body next => do
    if ← fitsAny output bytes patterns then pure (some body) else findBranch output bytes next
  | _ => pure none

/-- Run a loop. -/
def runLoop (wanted : Bool) (condition body : Run Unit) : (fuel : Nat) → (status : Nat) → Run Unit
  | 0, status => modify fun s => { s with status }
  | fuel + 1, status => do
    let more ← runBody do
      condition
      if (← succeeded) != wanted then throw (.broken 1)
      body
    if more then runLoop wanted condition body fuel (← get).status
    else if (← succeeded) != wanted then modify fun s => { s with status }

/-- Run a body for each of some values. -/
def runEach (name : String) (body : Run Unit) : List RawText → Run Unit
  | [] => pure ()
  | value :: rest => do
    let more ← runBody do
      assign name value
      body
    if more then runEach name body rest

/-- How often a loop may run. -/
def mostRounds : Nat := 100000

/-- Run a statement, which may contain others to a depth of `fuel`.  In a strict session a command
that fails ends it, unless its status is asked for. -/
def execute : (fuel : Nat) → (asked : Bool) → Statement → Run Unit
  | 0, _, _ => pure ()
  | fuel + 1, asked, statement => do
    let output := outputOf (execute fuel false)
    match statement with
    | .nothing | .branch .. => pure ()
    | .command line words redirections =>
      modify fun s => { s with line }
      runCommand (execute fuel asked) words redirections
      check asked
    | .sequence first second =>
      execute fuel asked first
      execute fuel asked second
    | .both first second =>
      execute fuel true first
      if ← succeeded then execute fuel asked second
    | .either first second =>
      execute fuel true first
      if !(← succeeded) then execute fuel asked second
    | .negation s =>
      execute fuel true s
      modify fun s => { s with status := if s.status = 0 then 1 else 0 }
    | .choice condition yes no =>
      execute fuel true condition
      if ← succeeded then execute fuel asked yes
      else
        modify fun s => { s with status := 0 }
        execute fuel asked no
    | .loop wanted condition body =>
      runLoop wanted (execute fuel true condition) (execute fuel asked body) mostRounds 0
    | .each name words body =>
      let values ← match words with
        | some words => expandAll output words
        | none => pure (← get).arguments
      modify fun s => { s with status := 0 }
      runEach name (execute fuel asked body) values
    | .cases word branches =>
      let subject ← text output word
      modify fun s => { s with status := 0 }
      if let some body ← findBranch output subject.bytes branches then execute fuel asked body
    | .function name body =>
      modify fun s =>
        { s with
          functions := (name, body) :: s.functions.filter fun f => f.1 ≠ name
          status := 0 }
    | .redirected line body redirections =>
      modify fun s => { s with line }
      redirected output false redirections (execute fuel asked body)
    | .apart body =>
      let _ ← apart (toItsEnd (execute fuel asked) (execute fuel asked body))
      check asked
    | .pipe first second =>
      let input := (← get).input
      let printed ← captured (execute fuel true first)
      modify fun s => { s with input := printed }
      let _ ← apart (execute fuel true second)
      modify fun s => { s with input }
      check asked
    | .background s =>
      let _ ← apart (execute fuel true s)
      modify fun s => { s with status := 0 }

/-- How deep statements may be nested. -/
def deepest : Nat := 1000

/-! ## Sessions -/

/-- Run something to its end. -/
def finish (x : Run Unit) (s : Session) : ExitStatus × Session :=
  match x.run s with
  | (.error (.ended status), s) => (status, s)
  | (.error (.returned status), s) => (.exited status, s)
  | (_, s) => (.exited s.status, s)

/-- Run the text of a script. -/
def run (text : List UInt8) (s : Session) : ExitStatus × Session :=
  let execution := execute deepest false
  finish (toItsEnd execution (runText execution (Utf8.lossy text))) s

/-- Run one command by itself. -/
def runAlone (name : RawText) (arguments : List RawText) (s : Session) : ExitStatus × Session :=
  finish (dispatch (execute deepest false) (name :: arguments)) s

/-- Run the shell with the words behind its name. -/
def invoke (words : List RawText) (s : Session) : ExitStatus × Session :=
  let execution := execute deepest false
  finish (toItsEnd execution (obey execution words)) s

end StartupBench.Shell
