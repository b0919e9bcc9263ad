import StartupBench.Act
import StartupBench.Duration

/-!
# Interrupts

A run cannot be cut short in the middle of a wait of the system, so an interrupt only raises a
flag.  The run looks at the flag between its steps, and `Alarm.waitFor` waits until it is raised or
a time has passed.
-/

namespace StartupBench

/-! ## The clock -/

/-- A reading of the clock, as the time since it was started. -/
abbrev Instant := Duration

/-- The clock counts seconds in a signed word of 64 bits. -/
def Instant.limit : Nat := Nat.pow 2 63

/-- The instant that comes `d` after `now`, if the clock reaches it. -/
def Instant.after? (now : Instant) (d : Duration) : Option Instant :=
  let later := Duration.ofNanos (now.toNanos + d.toNanos)
  if later.seconds < Instant.limit then some later else none

/-- A value that must be there. -/
def Act.expected {κ σ α : Type} (message : String) : Option α → Act κ σ α
  | some a => pure a
  | none => Act.panic message

/-- The instant that comes `d` after `now`.  A program that asks for more than the clock can say
panics. -/
def Instant.after {κ σ : Type} (now : Instant) (d : Duration) : Act κ σ Instant :=
  Act.expected "overflow when adding duration to instant" (now.after? d)

/-! ## The flag -/

/-- The interrupt flag and the clock of a world. -/
structure Alarm (κ σ : Type) where
  /-- Whether an interrupt was requested. -/
  raised : Act κ σ Bool
  /-- The clock. -/
  now : Act κ σ Instant
  /-- Wait until the flag is raised or an instant has come; whether the flag is raised then. -/
  waitUntil : Instant → Act κ σ Bool

/-- Wait until the flag is raised or a time has passed; whether the flag is raised then.  A flag
that is raised already ends the wait before it begins. -/
def Alarm.waitFor {κ σ : Type} (alarm : Alarm κ σ) (timeout : Duration) : Act κ σ Bool := do
  if ← alarm.raised then return true
  let deadline ← Instant.after (← alarm.now) timeout
  alarm.waitUntil deadline

end StartupBench
