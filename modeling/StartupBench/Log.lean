/-!
# Log events

What the program writes about its own progress.  An event has a level, the component that wrote
it, a message and, rarely, named fields.  Which events reach the screen is decided elsewhere
(`StartupBench.Log.Filter`); here they are plain values.
-/

namespace StartupBench.Log

/-! ## Levels and components -/

/-- Severity of an event, from the most to the least severe. -/
inductive Level where
  | error
  | warn
  | info
  | debug
  | trace
  deriving DecidableEq, Repr

namespace Level

/-- The level's name as it stands in front of a message. -/
def name : Level → String
  | error => "ERROR"
  | warn => "WARN"
  | info => "INFO"
  | debug => "DEBUG"
  | trace => "TRACE"

/-- Verbosity: an event is shown when its rank is at most that of the threshold. -/
def rank : Level → Nat
  | error => 1
  | warn => 2
  | info => 3
  | debug => 4
  | trace => 5

end Level

/-- The part of the program an event comes from.  Filters select events by its path. -/
inductive Component where
  | entry
  | runner
  | bench
  | results
  | prefetch
  | launch
  | trace
  | analysis
  | quit
  | processes
  deriving DecidableEq, Repr

/-- The path that a filter directive is compared with. -/
def Component.path : Component → String
  | .entry => "main"
  | .runner => "launchbench::orchestrator"
  | .bench => "launchbench::scenario"
  | .results => "launchbench::results"
  | .prefetch => "launchbench::prefetch"
  | .launch => "launchbench::launch"
  | .trace => "launchbench::trace"
  | .analysis => "launchbench::analysis"
  | .quit => "launchbench_os::shutdown"
  | .processes => "launchbench_os::unix"

/-! ## Events -/

/-- One log event. -/
structure Event where
  level : Level
  component : Component
  message : String
  /-- Fields beyond the message, written after it as `name=value`. -/
  fields : List (String × String) := []
  deriving DecidableEq, Repr

/-- The names of the fields: the message is one of them. -/
def Event.fieldNames (e : Event) : List String := "message" :: e.fields.map (·.1)

/-- A character of a message as it is shown.  Control characters that a terminal acts on are
spelled out. -/
def shownChar (c : Char) : String :=
  let n := c.toNat
  let digits := String.ofList (Nat.toDigits 16 n)
  if n = 0x07 ∨ n = 0x08 ∨ n = 0x0C then "\\x0" ++ digits
  else if n = 0x1B ∨ n = 0x7F then "\\x" ++ digits
  else if 0x80 ≤ n ∧ n ≤ 0x9F then "\\u\x7b" ++ digits ++ "\x7d"
  else String.singleton c

/-- The message as it is shown. -/
def Event.shownMessage (e : Event) : String := String.join (e.message.toList.map shownChar)

/-- The message followed by the fields. -/
def Event.body (e : Event) : String :=
  e.fields.foldl (fun text field => text ++ " " ++ field.1 ++ "=" ++ field.2) e.shownMessage

/-- The event on its own, without time and component. -/
def Event.text (e : Event) : String :=
  e.level.name ++ " " ++ e.body

end StartupBench.Log
