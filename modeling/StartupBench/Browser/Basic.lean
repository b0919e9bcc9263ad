import StartupBench.Browser.Family
import StartupBench.Command
import StartupBench.Preload

/-!
# A browser on a desktop

What the benchmark knows about the browser it measures: how an instance that runs on a profile is
found and asked to quit, with which arguments it is launched, how a profile that is missing is made,
and where its preload setting is kept.

An instance is found by the name of its executable.  A Chromium browser also names the profile on
its command line; a Mozilla browser does not, so that any instance of it counts.
-/

namespace StartupBench

/-- How a missing profile is made: with these arguments after those that select the profile. -/
inductive ProfileCreation where
  /-- Launch the browser, wait until it runs and ask it to quit. -/
  | launchAndQuit (extra : List RawText)
  /-- Run the browser to its end. -/
  | runToEnd (extra : List RawText)
  deriving DecidableEq, Repr

/-- A browser on a desktop. -/
structure Browser (κ σ : Type) where
  family : Family
  exe : Path
  desktop : Desktop κ σ
  /-- Where the preload setting is kept. -/
  preload : PreloadStore κ σ

namespace Browser

variable {κ σ : Type}

/-- The system that the messages name. -/
def systemName : String := "linux"

/-- A Chromium browser. -/
def chromium (exe : Path) (desktop : Desktop κ σ) (preload : PreloadStore κ σ) : Browser κ σ :=
  { family := .chromium, exe, desktop, preload }

/-- A Mozilla browser, which has no preload setting. -/
def mozilla (exe : Path) (desktop : Desktop κ σ) : Browser κ σ :=
  { family := .mozilla, exe, desktop, preload := .unavailable "Mozilla" }

/-- The browser of an executable.  This system has no preload setting. -/
def ofExecutable (exe : Path) (desktop : Desktop κ σ) : Browser κ σ :=
  match Family.ofExecutable exe with
  | .chromium => chromium exe desktop (.unavailable systemName)
  | .mozilla => mozilla exe desktop

/-- The browser as it stands in the log. -/
def text (b : Browser κ σ) : String := "ApplicationController(" ++ b.family.name ++ ")"

/-! ## Instances -/

/-- The argument by which a Chromium browser is given a profile. -/
def profileFlag (profile : Path) : String := "--user-data-dir=" ++ profile.display

/-- The instance that runs on a profile, and how it is asked to quit. -/
def quitTarget (b : Browser κ σ) (profile : Path) : QuitTarget :=
  let windowClass := b.exe.fileNameText
  match b.family with
  | .chromium =>
    { instancePattern := ⟨windowClass, some (profileFlag profile)⟩
      recipients := .exactly windowClass
      message := .endSession }
  | .mozilla =>
    { instancePattern := ⟨windowClass, none⟩
      recipients := .exactly windowClass
      message := .appQuit }

/-- Whether an instance runs on a profile. -/
def isRunning (b : Browser κ σ) (profile : Path) : Act κ σ Bool := do
  let window ← b.desktop.findWindow (b.quitTarget profile).instancePattern
  pure window.isSome

/-- Ask the instance on a profile to quit and wait until it has exited.  Answers its exit code, if
that is known. -/
def quit (b : Browser κ σ) (profile : Path) (limit : Option Duration) :
    Try κ σ RunError (Option Int) :=
  Try.mapError RunError.ofQuit ((b.quitTarget profile).quit b.desktop limit)

/-! ## Launching -/

/-- The argument by which a Mozilla browser makes a profile. -/
def createProfile : RawText := "-CreateProfile"

/-- The arguments that select a profile, followed by `extra`.  A Mozilla browser that makes a
profile must not be given one. -/
def launchArguments (b : Browser κ σ) (profile : Path) (extra : List RawText) : List RawText :=
  match b.family with
  | .chromium => (profileFlag profile : RawText) :: extra
  | .mozilla =>
    if extra.contains createProfile then extra
    else ("-profile" : RawText) :: profile.raw :: extra

/-- How a missing profile is made. -/
def profileCreation (b : Browser κ σ) (profile : Path) : ProfileCreation :=
  match b.family with
  | .chromium => .launchAndQuit [("--no-first-run" : RawText)]
  | .mozilla => .runToEnd [createProfile, profile.raw]

end Browser

end StartupBench
