import StartupBench.Quit

/-!
# What can go wrong in a run
-/

namespace StartupBench

/-- Why a run, or a part of it, failed. -/
inductive RunError where
  | targetNotFound (pattern : WindowPattern)
  | quitTimeout (pid : ProcessId) (limit : Duration)
  | launchTimeout (attempts : Nat)
  | unsupportedFeature (feature target : String)
  | traceStart (reason : String)
  | traceStop (reason : String)
  | unitsConflict (graph trace existing requested : String)
  | unrecognizedPlatform (major : Option Nat)
  | invalidExecutable (path : Path) (reason : String)
  | interrupted
  | analysis (reason : String)
  | io (error : IoError)
  | os (error : PrimitiveError)
  deriving DecidableEq, Repr

namespace RunError

/-- The error in words. -/
def message : RunError → String
  | targetNotFound pattern =>
    "no running application instance found (looked for a window of " ++ pattern.text ++ ")"
  | quitTimeout pid limit =>
    "application process " ++ pid.text ++ " did not exit within " ++ limit.text
  | launchTimeout attempts =>
    "application was not running after " ++ toString attempts ++ " polls"
  | unsupportedFeature feature target => feature ++ " is not supported for " ++ target
  | traceStart reason => "failed to start trace capture: " ++ reason
  | traceStop reason => "failed to stop trace capture: " ++ reason
  | unitsConflict graph trace existing requested =>
    "units conflict for " ++ graph ++ "/" ++ trace ++ ": recorded as " ++ Text.quoted existing ++
      ", got " ++ Text.quoted requested
  | unrecognizedPlatform major =>
    "unrecognized platform for cold start (Windows major version " ++
      optionText toString major ++ ")"
  | invalidExecutable path reason => "cannot use executable " ++ path.display ++ ": " ++ reason
  | interrupted => "interrupted"
  | analysis reason => "trace analysis failed: " ++ reason
  | io error => error.message
  | os error => error.message

/-- The causes behind the error that a report lists below it. -/
def causes : RunError → List String
  | os error => [error.cause.message]
  | _ => []

/-- A failed attempt to make the application leave, as a failure of the run. -/
def ofQuit : QuitError → RunError
  | .targetNotFound pattern => targetNotFound pattern
  | .timeout pid limit => quitTimeout pid limit
  | .os error => os error

end RunError

end StartupBench
