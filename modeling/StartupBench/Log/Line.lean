import StartupBench.Log
import StartupBench.Text.Blank

/-!
# Log lines

A line of the log has the time, the level and the message with its fields.  On request the time is
dimmed, the level coloured and the names of fields slanted by control sequences of the terminal.
-/

namespace StartupBench.Log

/-- A text between a control sequence and the one that ends it. -/
def styled (code text : String) : String := "\x1b[" ++ code ++ "m" ++ text ++ "\x1b[0m"

/-- The colour of a level. -/
def Level.color : Level → String
  | error => "31"
  | warn => "33"
  | info => "32"
  | debug => "34"
  | trace => "35"

/-- The name of a level in five columns. -/
def Level.column (l : Level) : String :=
  String.ofList (List.replicate (5 - l.name.length) ' ') ++ l.name

/-- A field. -/
def fieldText (color : Bool) (field : String × String) : String :=
  if color then styled "3" field.1 ++ styled "2" "=" ++ field.2 else field.1 ++ "=" ++ field.2

/-- The line of an event. -/
def Event.line (e : Event) (time : String) (color : Bool) : String :=
  let head :=
    if color then styled "2" time ++ " " ++ styled e.level.color e.level.column
    else time ++ " " ++ e.level.column
  let fields := String.join (e.fields.map fun field => " " ++ fieldText color field)
  head ++ " " ++ e.shownMessage ++ fields ++ "\n"

/-- The lines of an event, each ended by a line feed, without the blanks in front of each. -/
def Event.lines (e : Event) : List String :=
  (Text.lines (e.text ++ "\n")).map fun line => String.ofList (line.toList.dropWhile Text.isBlank)

end StartupBench.Log
