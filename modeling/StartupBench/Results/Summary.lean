import StartupBench.Results.Basic
import StartupBench.Results.Stats
import StartupBench.Results.Table

/-!
# The summary at the end of a run
-/

namespace StartupBench.Ledger

/-- A number of the summary: a whole number below `1e15` without places, any other with four. -/
def summaryNumber (x : Float) : String :=
  let whole := x - x.floor == 0.0
  if whole && x.abs < 1e15 then Decimal.fixed 0 x else Decimal.fixed 4 x

/-- The row of a series. -/
def summaryRow (key : ResultKey) (series : Series) : List Table.Cell :=
  let stats := Stats.ofSamples series.samples
  [{ text := key.graph ++ ": " ++ key.trace },
    { text := series.units },
    { text := toString stats.count, alignRight := true },
    { text := summaryNumber stats.mean, alignRight := true },
    { text := summaryNumber stats.stdDev, alignRight := true },
    { text := summaryNumber stats.min, alignRight := true },
    { text := summaryNumber stats.max, alignRight := true }]

/-- The table of all series. -/
def summaryTable (l : Ledger) : Table where
  header := ["Metric", "Units", "n", "Mean", "Std Dev", "Min", "Max"].map fun t => { text := t }
  rows := l.entries.map fun e => summaryRow e.1 e.2

/-- The title, in the middle of sixty columns. -/
def summaryTitle (completed : Nat) : String :=
  let title := " SUMMARY (" ++ toString completed ++ " iterations) "
  let missing := 60 - title.length
  Table.copies (missing / 2) "=" ++ title ++ Table.copies (missing - missing / 2) "="

/-- The lines of the summary, which are written one by one; none if there are no results. -/
def summaryLines (l : Ledger) (completed : Nat) (color : Bool) : List String :=
  if l.isEmpty then []
  else
    let title := summaryTitle completed
    let shown := if color then "\x1b[1m\x1b[33m" ++ title ++ "\x1b[39m\x1b[0m" else title
    ["", shown, l.summaryTable.text]

/-- The summary. -/
def summaryText (l : Ledger) (completed : Nat) (color : Bool) : String :=
  String.join ((l.summaryLines completed color).map (· ++ "\n"))

end StartupBench.Ledger
