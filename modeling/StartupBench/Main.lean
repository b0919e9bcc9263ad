import StartupBench.Machine.Execute

/-!
# The command line

Programs cannot be started from here, so a call of the command line is a rehearsal: the program runs
on a machine in memory that is furnished with what the arguments name.  The browser on it lives for
a while and leaves when it is asked to, the control program of traces does nothing, and the analyzer
finds nothing.  What the program writes, and the exit code, are those of such a run.
-/

namespace StartupBench

/-- The variables that the program looks at. -/
def variableNames : List String :=
  CommandLine.Argument.all.filterMap (·.fromEnvironment?) ++
    ["NO_COLOR", "RUST_LOG", "TMPDIR", "WINDIR"]

/-- What the analyzer of a rehearsal prints. -/
def noEvents : List UInt8 := Utf8.encode "[0, 0]"

/-- The machine of a rehearsal for a configuration. -/
def rehearsalMachine (m : Machine) (c : Config) : Machine :=
  let m := m.withExecutable c.exe (.application { reaction := .dies })
  let m := match c.traceControl with
    | some control => m.withExecutable control (.tool [])
    | none => m
  match c.analyzer with
  | some analyzer =>
    m.withExecutable analyzer (.tool (List.replicate c.iterations { stdout := noEvents }))
  | none => m

/-- The environment, as far as the program looks at it. -/
def readEnvironment : IO CommandLine.Environment :=
  variableNames.filterMapM fun name => do
    let value ← IO.getEnv name
    pure (value.map fun text => (name, (text : RawText)))

/-- Whether a file can be read. -/
def canRead (file : String) : IO Bool := do
  try
    IO.FS.withFile file .read fun _ => pure ()
    pure true
  catch _ => pure false

/-- The place of the program and the working directory. -/
def readPlaces : IO (Path × Path) := do
  let program ← IO.appPath
  let directory := (program.parent.map toString).getD "."
  let cwd ← IO.currentDir
  pure (directory, toString cwd)

/-- Rehearse a call with some words. -/
def rehearse (words : List String) : IO UInt32 := do
  let env ← readEnvironment
  let (programDirectory, cwd) ← readPlaces
  let surroundings : Options.Surroundings := { programDirectory, env }
  let raw : List RawText := words.map RawText.ofString
  let files : Files := ({} : Files).makeDirectories cwd
  let empty : Machine := Machine.furnished { files := { files with cwd := cwd.parts } }
  let temporary := Machine.temporary env cwd
  let empty := { empty with files := empty.files.makeDirectories temporary }
  let machine ← match Options.read env raw with
    | .error _ => pure empty
    | .ok o =>
      if ← canRead o.exe.display then
        match o.config surroundings true with
        | .ok c => pure (rehearsalMachine empty c)
        | .error _ => pure (empty.withFile o.exe [] true)
      else pure empty
  let seen := machine.execute (machine.system surroundings) raw "1970-01-01T00:00:00Z"
  IO.print seen.machine.stdout
  IO.eprint seen.stderr
  pure seen.code.toUInt32

end StartupBench

/-- The program. -/
def main (words : List String) : IO UInt32 := StartupBench.rehearse words
