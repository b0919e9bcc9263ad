import StartupBench.Decimal.Reader
import StartupBench.Shell.Session

/-!
# Commands on files

Commands that a script shares with other programs: they make, remove and show files.  Each
gets its arguments and answers a status.
-/

namespace StartupBench.Shell

namespace Utility

/-! ## Arguments -/

/-- Whether a word is an option with a letter. -/
def hasOption (letter : Char) (options : List RawText) : Bool :=
  options.any fun o => !o.display.startsWith "--" && o.display.toList.contains letter

/-- The options in front of arguments, and the arguments behind them. -/
def takeOptions (arguments : List RawText) : List RawText × List RawText :=
  let (options, rest) := arguments.span fun a =>
    a.bytes.head? == some 0x2D && a.bytes != [0x2D] && a.bytes != [0x2D, 0x2D]
  (options, match rest with
    | a :: more => if a = "--" then more else rest
    | [] => [])

/-- A path between quotes. -/
def named (p : Path) : String := "'" ++ p.display ++ "'"

/-- Do something for each path; the status says whether all went well. -/
def forEach (paths : List RawText) (f : Path → Run Bool) : Run Nat := do
  let mut status := 0
  for p in paths do
    if !(← f ⟨p⟩) then status := 1
  pure status

/-- Complain that arguments are missing. -/
def wanting (name kind : String) : Run Nat := do
  say (name ++ ": missing " ++ kind ++ "\nTry '" ++ name ++ " --help' for more information.")
  pure 1

/-- The reason of an error. -/
def reason : IoError → String
  | .os errno => errno.description
  | e => e.message

/-- Change the files; what goes wrong is said. -/
def change (complaint : String) (f : Files → Except IoError Files) : Run Bool := do
  let s ← get
  match f s.files with
  | .ok files =>
    set { s with files }
    pure true
  | .error e =>
    say (complaint ++ ": " ++ reason e)
    pure false

/-! ## Directories -/

/-- Make a directory and those that lead to it. -/
def makeAlong (complaint : Path → String) (p : Path) : Run Bool := do
  let s ← get
  let (files, trouble) := s.files.makeDirectoriesAlong p
  set { s with files }
  match trouble with
  | none => pure true
  | some (p, e) =>
    say (complaint p ++ ": " ++ e.description)
    pure false

/-- Make directories. -/
def makeDirectories (arguments : List RawText) : Run Nat := do
  let (options, paths) := takeOptions arguments
  let complaint (p : Path) : String := "mkdir: cannot create directory " ++ named p
  if paths.isEmpty then wanting "mkdir" "operand"
  else
    forEach paths fun p =>
      if hasOption 'p' options then makeAlong complaint p
      else change (complaint p) fun files => files.makeDirectory p

/-- Remove an empty directory. -/
def removeEmpty (files : Files) (p : Path) : Except IoError Files := do
  let place ← files.find p
  match place.here, p.ending with
  | .file .., _ => .error (.os .notADirectory)
  | .directory [], .name .. => .ok (files.removeAt place.location)
  | .directory [], _ => .error (.os .invalid)
  | .directory _, _ => .error (.os .notEmpty)

/-- Remove empty directories. -/
def removeDirectories (arguments : List RawText) : Run Nat := do
  let paths := (takeOptions arguments).2
  if paths.isEmpty then wanting "rmdir" "operand"
  else
    forEach paths fun p =>
      change ("rmdir: failed to remove " ++ named p) fun files => removeEmpty files p

/-- The names in a directory, or the path of a file, for each path. -/
def listNames (arguments : List RawText) : Run Nat := do
  let (options, paths) := takeOptions arguments
  let paths : List RawText := if paths.isEmpty then ["."] else paths
  let mut status := 0
  for p in paths do
    match (← get).files.find ⟨p⟩ with
    | .error e =>
      say ("ls: cannot access " ++ named ⟨p⟩ ++ ": " ++ reason e)
      status := 2
    | .ok place =>
      if place.here.isDirectory && !hasOption 'd' options then
        let names := place.here.entries.map fun e => Utf8.lossy e.1
        let all := hasOption 'a' options || hasOption 'A' options
        let shown := names.filter fun name => all || !name.startsWith "."
        for name in shown.mergeSort (fun a b => !decide (b < a)) do
          printText (name ++ "\n")
      else printText (p.display ++ "\n")
  pure status

/-! ## Files -/

/-- Remove files, and directories if an option says so. -/
def remove (arguments : List RawText) : Run Nat := do
  let (options, paths) := takeOptions arguments
  let deep := hasOption 'r' options || hasOption 'R' options
  let forced := hasOption 'f' options
  if paths.isEmpty then
    if forced then pure 0 else wanting "rm" "operand"
  else
    forEach paths fun p =>
      change ("rm: cannot remove " ++ named p) fun files =>
        if deep && files.isDirectory p then
          match files.removeDirectory p with
          | (.ok (), after) => .ok after
          | (.error e, _) => .error e
        else
          match files.removeFile p with
          | .error (.os .noEntry) => if forced then .ok files else .error (.os .noEntry)
          | result => result

/-- Make files where none stand. -/
def touch (arguments : List RawText) : Run Nat := do
  let paths := (takeOptions arguments).2
  if paths.isEmpty then wanting "touch" "file operand"
  else
    forEach paths fun p =>
      change ("touch: cannot touch " ++ named p) fun files =>
        if files.isDirectory p then .ok files
        else files.write p ((files.content? p).getD [])

/-- Print the contents of files, or what can be read. -/
def concatenate (arguments : List RawText) : Run Nat := do
  let paths := (takeOptions arguments).2
  let paths : List RawText := if paths.isEmpty then ["-"] else paths
  forEach paths fun p => do
    let s ← get
    if p.raw = "-" then
      set { s with input := [] }
      print 1 s.input
    else
      match s.files.find p with
      | .ok ⟨.file content _, _⟩ => print 1 content
      | .ok _ =>
        say ("cat: " ++ p.display ++ ": Is a directory")
        pure false
      | .error e =>
        say ("cat: " ++ p.display ++ ": " ++ reason e)
        pure false

/-! ## Texts -/

/-- A path without the slashes at its end. -/
def withoutSlashes (bytes : List UInt8) : List UInt8 :=
  (bytes.reverse.dropWhile (· == Path.slash)).reverse

/-- The last part of a path, without an ending. -/
def baseName (arguments : List RawText) : Run Nat := do
  match arguments with
  | [] => wanting "basename" "operand"
  | p :: ending =>
    let bytes := withoutSlashes p.bytes
    let last := (bytes.reverse.takeWhile (· != Path.slash)).reverse
    let last := if bytes.isEmpty && !p.bytes.isEmpty then [Path.slash] else last
    let ending := (ending.headD "").bytes
    let last := if ending.isSuffixOf last && ending ≠ last then
        last.take (last.length - ending.length)
      else last
    let _ ← print 1 (last ++ [0x0A])
    pure 0

/-- A path without its last part. -/
def parentName (arguments : List RawText) : Run Nat := do
  match arguments with
  | [] => wanting "dirname" "operand"
  | p :: _ =>
    let before := (withoutSlashes p.bytes).reverse.dropWhile (· != Path.slash)
    let parent := withoutSlashes before.reverse
    let parent :=
      if !parent.isEmpty then parent
      else if p.bytes.head? == some Path.slash then [Path.slash]
      else [Path.dot]
    let _ ← print 1 (parent ++ [0x0A])
    pure 0

/-- The seconds that letters behind a number stand for. -/
def unit? (c : Char) : Option Nat :=
  [('s', 1), ('m', 60), ('h', 3600), ('d', 86400)].lookup c

/-- The time that a text writes, in seconds unless a letter says otherwise. -/
def interval? (t : RawText) : Option Duration :=
  let text := t.display
  let (number, factor) := match text.toList.getLast?.bind unit? with
    | some factor => ((text.dropEnd 1).toString, factor)
    | none => (text, 1)
  match (Decimal.read? number).map Duration.ofFloat with
  | some (.ok d) => some (.ofNanos (d.toNanos * factor))
  | _ => none

/-- Let time pass. -/
def sleep (arguments : List RawText) : Run Nat := do
  let tryHelp : String := "Try 'sleep --help' for more information."
  let bad := arguments.filter fun a => (interval? a).isNone
  match arguments, bad with
  | [], _ => wanting "sleep" "operand"
  | _, [] =>
    for a in arguments do
      let time := (interval? a).getD .zero
      modify fun s => { s with slept := .ofNanos (s.slept.toNanos + time.toNanos) }
    pure 0
  | _, _ =>
    for a in bad do
      say ("sleep: invalid time interval '" ++ a.display ++ "'")
    say tryHelp
    pure 1

/-- The commands by their names. -/
def byName? (name : String) : Option (List RawText → Run Nat) :=
  match name with
  | "mkdir" => some makeDirectories
  | "rmdir" => some removeDirectories
  | "ls" => some listNames
  | "rm" => some remove
  | "touch" => some touch
  | "cat" => some concatenate
  | "basename" => some baseName
  | "dirname" => some parentName
  | "sleep" => some sleep
  | _ => none

/-- The names of the commands. -/
def names : List String :=
  ["basename", "cat", "dirname", "ls", "mkdir", "rm", "rmdir", "sleep", "touch"]

end Utility

end StartupBench.Shell
