/-!
# Progress of a run

How many iterations are done, and what the current one is doing.  A visible indicator knows its
length and jumps to it when it is finished; a hidden one has no length and stays where it is.
-/

namespace StartupBench

/-- A progress indicator. -/
structure Progress where
  total : Nat
  /-- The length of the bar; a hidden indicator has none. -/
  length : Option Nat
  position : Nat := 0
  /-- What the run is doing. -/
  stage : String := "Setting up..."
  deriving DecidableEq, Repr

namespace Progress

/-- An indicator that is shown. -/
def visible (total : Nat) : Progress := { total, length := some total }

/-- An indicator that is not shown. -/
def hidden (total : Nat) : Progress := { total, length := none }

/-- Say what an iteration is doing. -/
def setStage (p : Progress) (iteration : Nat) (stage : String) : Progress :=
  { p with
    stage := "Iteration " ++ toString (iteration + 1) ++ "/" ++ toString p.total ++ ": " ++ stage }

/-- One more iteration is done. -/
def iterationDone (p : Progress) : Progress := { p with position := p.position + 1 }

/-- The run is over. -/
def finish (p : Progress) : Progress := { p with position := p.length.getD p.position }

end Progress

end StartupBench
