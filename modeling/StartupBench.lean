import StartupBench.Main
import StartupBench.Proofs.Desktop.Reachable
import StartupBench.Proofs.Quit.Handles
import StartupBench.Proofs.Bench.Preload
import StartupBench.Proofs.Bench.Samples
import StartupBench.Proofs.Runner.Calls
import StartupBench.Rehearsal.Drill
import StartupBench.Rehearsal.Stage
import StartupBench.Proofs.Quit.Simulated
import StartupBench.Proofs.Bench.Stale
import StartupBench.Proofs.Bench.Bracket
import StartupBench.Proofs.Desktop.Unfolding
import StartupBench.Proofs.Quit.Restless
import StartupBench.Proofs.Bench.Launched
import StartupBench.Proofs.Bench.Output
import StartupBench.Proofs.Runner.TearDown
import StartupBench.Proofs.Program.ExitCode
import StartupBench.Proofs.Runner.Phases
import StartupBench.Proofs.Text.Words
import StartupBench.Proofs.Text.Decoded
import StartupBench.Proofs.Desktop.CommandLine
import StartupBench.Proofs.Desktop.Spared
import StartupBench.Proofs.Bench.Sighted
import StartupBench.Proofs.Bench.Interrupted
import StartupBench.Proofs.Quit.Departing
import StartupBench.Proofs.Bench.Departing
import StartupBench.Proofs.Bench.Profile
import StartupBench.Proofs.Bench.Temporary
import StartupBench.Proofs.Bench.Panics
import StartupBench.Proofs.Program.Deadline
import StartupBench.Proofs.Quit.Drained
import StartupBench.Proofs.Runner.Waiting
import StartupBench.Proofs.Desktop.Listed
import StartupBench.Proofs.Desktop.ExitCodes
import StartupBench.Proofs.Desktop.Requests
import StartupBench.Proofs.Desktop.Reaped
import StartupBench.Proofs.Desktop.Polled
import StartupBench.Proofs.Desktop.Bookkeeping
import StartupBench.Proofs.Files.Removed
import StartupBench.Proofs.Prefetch
import StartupBench.Proofs.Bench.Selected
import StartupBench.Proofs.Desktop.Addressed
import StartupBench.Proofs.Results.Lines
import StartupBench.Proofs.Bench.TornDown
import StartupBench.Proofs.Text.Strict
import StartupBench.Proofs.Program.ColdStart
import StartupBench.Proofs.Runner.Counted
