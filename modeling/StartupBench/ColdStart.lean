import StartupBench.Command

/-!
# Cold starts

A launch is cold when the system has not read the executable before.  To make every launch cold, a
helper takes a snapshot of the executable's drive, mounts it under a drive letter of its own and
runs the executable from there.  Which helper fits depends on the system.
-/

namespace StartupBench

/-- What is known about the system. -/
structure Host where
  /-- The major version of Windows; none on another system. -/
  windowsMajor : Option UInt32 := none
  /-- Whether the program is a 32-bit one on a 64-bit system. -/
  wow64 : Bool := false
  deriving DecidableEq, Repr

/-- The file name of the helper for a system. -/
def Host.snapshotHelper (h : Host) : Except RunError String :=
  match h.windowsMajor with
  | none => .error (.unrecognizedPlatform none)
  | some major =>
    if major = 5 then .ok "run_in_snapshot_xp.exe"
    else if 5 < major then
      .ok (if h.wow64 then "run_in_snapshot_x64.exe" else "run_in_snapshot.exe")
    else .error (.unrecognizedPlatform (some major.toNat))

/-- Whether a character is an ASCII letter. -/
def isDriveLetter (c : Char) : Bool := ('A' ≤ c && c ≤ 'Z') || ('a' ≤ c && c ≤ 'z')

/-- The drive of a path, a letter and a colon, and what follows it. -/
def splitDrive? (path : String) : Option (String × String) :=
  match path.toList with
  | letter :: ':' :: rest =>
    if isDriveLetter letter then some (String.ofList [letter, ':'], String.ofList rest) else none
  | _ => none

/-- How to launch cold. -/
structure ColdStart where
  helper : Path
  /-- Where snapshots are mounted, without slashes at the end. -/
  snapshotDrive : String
  deriving DecidableEq, Repr

namespace ColdStart

/-- A text without slashes of either kind at its end. -/
def withoutSlashes (text : String) : String :=
  String.ofList ((text.toList.reverse.dropWhile fun c => c == '\\' || c == '/').reverse)

/-- The way to launch cold on a system, with the helpers in `tools`. -/
def forHost (h : Host) (tools : Path) (snapshotDrive : String) : Except RunError ColdStart := do
  let helper ← h.snapshotHelper
  pure { helper := tools.join helper, snapshotDrive := withoutSlashes snapshotDrive }

/-- The command that runs `exe` from a fresh snapshot of its drive. -/
def command (c : ColdStart) (exe : Path) (arguments : List RawText) : Except RunError Command :=
  match exe.toString? with
  | none => .error (.invalidExecutable exe "path is not valid Unicode")
  | some path =>
    match splitDrive? path with
    | none => .error (.invalidExecutable exe "cold start needs a drive-qualified path")
    | some (drive, rest) =>
      let own : List RawText :=
        [("--volume=" ++ drive ++ "\\" : String), ("--snapshot=" ++ c.snapshotDrive : String),
          "--", (c.snapshotDrive ++ rest : String)]
      .ok { program := c.helper, arguments := own ++ arguments }

end ColdStart

end StartupBench
