import StartupBench.Decimal.Reader
import StartupBench.RawText

/-!
# The arguments of the command line

Every argument has a kind, which says whether it takes a value and which values are accepted.  An
argument is written with two dashes and its name, with one dash and its letter if it has one, or it
is one of the two positional ones.  Some can also be given by a variable of the environment.

The whole table is here, so that the reader of the command line (`StartupBench.CommandLine.Reader`)
is about the form alone.
-/

namespace StartupBench.CommandLine

/-- An argument of the command line. -/
inductive Argument where
  | exe
  | profile
  | iterations
  | preload
  | preloadSize
  | preloadStride
  | coldStart
  | noPrefetch
  | keepTemporary
  | noInitializeProfile
  | settleSeconds
  | quitLimitSeconds
  | launchAttempts
  | toolsDirectory
  | prefetchDirectory
  | snapshotDrive
  | analyzer
  | traceControl
  | noTrace
  | json
  | noColor
  | verbose
  | help
  | version
  deriving DecidableEq, Repr

/-- What an argument is. -/
inductive Kind where
  /-- It stands alone and says yes. -/
  | flag
  /-- A whole number from `least` to `most`; zero may be written with a minus if it is `signed`. -/
  | count (least most : Nat) (signed : Bool)
  /-- A number of seconds. -/
  | seconds
  /-- The name of a file. -/
  | path
  /-- Any text. -/
  | text
  /-- It stands alone and ends the reading. -/
  | final
  deriving DecidableEq, Repr

namespace Argument

/-- All arguments, in the order in which they are looked at. -/
def all : List Argument :=
  [exe, profile, iterations, preload, preloadSize, preloadStride, coldStart, noPrefetch,
    keepTemporary, noInitializeProfile, settleSeconds, quitLimitSeconds, launchAttempts,
    toolsDirectory, prefetchDirectory, snapshotDrive, analyzer, traceControl, noTrace, json,
    noColor, verbose, help, version]

/-- The largest number of 32 bits. -/
def most32 : Nat := Nat.pow 2 32 - 1

/-- The largest number of 64 bits. -/
def most64 : Nat := Nat.pow 2 64 - 1

/-- What the argument is. -/
def kind : Argument → Kind
  | exe | profile => .path
  | iterations => .count 0 most64 false
  | preloadSize | preloadStride => .count 0 most32 true
  | launchAttempts => .count 1 most32 true
  | settleSeconds | quitLimitSeconds => .seconds
  | toolsDirectory | prefetchDirectory | analyzer | traceControl | json => .path
  | snapshotDrive => .text
  | preload | coldStart | noPrefetch | keepTemporary | noInitializeProfile | noTrace | noColor
  | verbose => .flag
  | help | version => .final

/-- Whether the argument takes a value. -/
def takesValue (a : Argument) : Bool :=
  match a.kind with
  | .flag | .final => false
  | _ => true

/-- The name after two dashes; the positional arguments have none. -/
def name? : Argument → Option String
  | exe | profile => none
  | iterations => "iterations"
  | preload => "preload"
  | preloadSize => "preload-size"
  | preloadStride => "preload-stride"
  | coldStart => "cold-start"
  | noPrefetch => "no-prefetch"
  | keepTemporary => "keep-temp-dirs"
  | noInitializeProfile => "no-initialize-profile"
  | settleSeconds => "settle-secs"
  | quitLimitSeconds => "shutdown-timeout-secs"
  | launchAttempts => "launch-attempts"
  | toolsDirectory => "tools-dir"
  | prefetchDirectory => "prefetch-dir"
  | snapshotDrive => "snapshot-drive"
  | analyzer => "analyzer"
  | traceControl => "trace-control"
  | noTrace => "no-trace"
  | json => "json"
  | noColor => "no-color"
  | verbose => "verbose"
  | help => "help"
  | version => "version"

/-- The letter after one dash. -/
def letter? : Argument → Option Char
  | iterations => 'n'
  | verbose => 'v'
  | help => 'h'
  | version => 'V'
  | _ => none

/-- The variable that may give the argument. -/
def fromEnvironment? : Argument → Option String
  | exe => "LAUNCHBENCH_EXE"
  | profile => "LAUNCHBENCH_PROFILE_DIR"
  | iterations => "LAUNCHBENCH_ITERATIONS"
  | keepTemporary => "LAUNCHBENCH_KEEP_TEMP_DIRS"
  | toolsDirectory => "LAUNCHBENCH_TOOLS_DIR"
  | analyzer => "LAUNCHBENCH_ANALYZER"
  | _ => none

/-- The argument of a name. -/
def ofName? (name : String) : Option Argument := all.find? fun a => a.name? == some name

/-- The argument of a letter. -/
def ofLetter? (letter : Char) : Option Argument := all.find? fun a => a.letter? == some letter

end Argument

/-! ## Values -/

/-- What is wrong with a command line, or why it is not read to its end. -/
inductive UsageError where
  | missingArgument
  | unknownArgument
  /-- A value that is missing or not among those that there are. -/
  | invalidValue
  /-- A value that cannot be read. -/
  | unreadableValue
  /-- Arguments that exclude each other, or one given twice. -/
  | conflict
  /-- A value for an argument that takes none. -/
  | surplusValue
  /-- A value that is no text. -/
  | notText
  | helpWanted
  | versionWanted
  deriving DecidableEq, Repr

/-- A value of an argument. -/
inductive Value where
  | yes (value : Bool)
  | count (value : Nat)
  | seconds (value : Float)
  | path (value : Path)
  | text (value : String)

/-- The digits of a number, all of them. -/
def allDigits? (cs : List Char) : Option Nat :=
  match Decimal.takeDigits cs with
  | (d :: ds, []) => some (Decimal.ofDigits (d :: ds))
  | _ => none

/-- A whole number, with a sign in front if need be. -/
def wholeNumber? (signed : Bool) (text : String) : Option Nat :=
  match text.toList with
  | '+' :: rest => allDigits? rest
  | '-' :: rest => if signed then (allDigits? rest).filter (· = 0) else none
  | cs => allDigits? cs

/-- Reads the value of an argument of some kind. -/
def Kind.read (k : Kind) (raw : RawText) : Except UsageError Value :=
  match k with
  | .path => if raw.bytes.isEmpty then .error .invalidValue else .ok (.path ⟨raw⟩)
  | k =>
    match raw.toString? with
    | none => .error .notText
    | some s =>
      match k with
      | .count least most signed =>
        match wholeNumber? signed s with
        | some n => if least ≤ n ∧ n ≤ most then .ok (.count n) else .error .unreadableValue
        | none => .error .unreadableValue
      | .seconds =>
        match Decimal.read? s with
        | some x => .ok (.seconds x)
        | none => .error .unreadableValue
      | .path | .text => .ok (.text s)
      | .flag | .final =>
        if s = "true" then .ok (.yes true)
        else if s = "false" then .ok (.yes false)
        else .error .invalidValue

end StartupBench.CommandLine
