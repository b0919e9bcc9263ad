import StartupBench.Json.Printer
import StartupBench.Results.Basic
import StartupBench.Results.Stats

/-!
# The report of a run as JSON
-/

namespace StartupBench

/-- What a report says about the run as a whole. -/
structure RunSummary where
  /-- When the report was made. -/
  timestamp : String
  /-- The system it was made on. -/
  platform : String
  exe : Path
  profile : Path
  iterations : Nat
  completed : Nat
  failed : Option Nat
  coldStart : Bool
  prefetch : Bool
  preload : Bool

/-- The version of the program. -/
def version : String := "0.1.0"

namespace RunSummary

/-- The part of a report about the run as a whole; a failed iteration is named only if there is
one. -/
def metadata (s : RunSummary) : Json :=
  .record <|
    [("timestamp", .text s.timestamp),
      ("platform", .text s.platform),
      ("launchbench_version", .text version),
      ("executable", .text s.exe.display),
      ("profile_dir", .text s.profile.display),
      ("iterations", .count s.iterations),
      ("completed_iterations", .count s.completed)] ++
    (s.failed.toList.map fun i => ("failed_iteration", .count i)) ++
    [("cold_start", .bool s.coldStart),
      ("prefetch", .bool s.prefetch),
      ("preload", .bool s.preload)]

/-- The part of a report about one series. -/
def metric (key : ResultKey) (series : Series) : Json :=
  let stats := Stats.ofSamples series.samples
  .record
    [("graph", .text key.graph),
      ("trace", .text key.trace),
      ("units", .text series.units),
      ("samples", .list (series.samples.map .number)),
      ("mean", .number stats.mean),
      ("std_dev", .number stats.stdDev),
      ("min", .number stats.min),
      ("max", .number stats.max)]

/-- The report. -/
def document (s : RunSummary) (results : Ledger) : Json :=
  .record
    [("metadata", s.metadata),
      ("results", .list (results.entries.map fun e => metric e.1 e.2))]

/-- The text of the report. -/
def reportText (s : RunSummary) (results : Ledger) : String := (s.document results).pretty

end RunSummary

end StartupBench
