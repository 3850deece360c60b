import ConfigKeeper.Main
import ConfigKeeper.Store.Memory
import ConfigKeeper.Store.Recorded
import ConfigKeeper.Store.Server
import ConfigKeeper.Proofs.Diff.Script
import ConfigKeeper.Proofs.Diff.Hunks
import ConfigKeeper.Proofs.Json.Members
import ConfigKeeper.Proofs.Sync.Action
import ConfigKeeper.Proofs.Text.Utf8
import ConfigKeeper.Proofs.Store.Transcript
import ConfigKeeper.Proofs.Sync.Lookup
import ConfigKeeper.Proofs.Sync.Survey
import ConfigKeeper.Proofs.Sync.Approval
import ConfigKeeper.Proofs.Sync.Transcript
import ConfigKeeper.Proofs.Sync.SingleUpdate
import ConfigKeeper.Proofs.Project.Growth
import ConfigKeeper.Proofs.Sync.Reread
import ConfigKeeper.Proofs.Json.Strings
import ConfigKeeper.Proofs.Json.RoundTrip
import ConfigKeeper.Proofs.Store.Wire
import ConfigKeeper.Proofs.Sync.Siblings
import ConfigKeeper.Proofs.Store.Replay
import ConfigKeeper.Proofs.Sync.Interleaving
import ConfigKeeper.Proofs.Secret.Reading
import ConfigKeeper.Proofs.Sync.Isolation
import ConfigKeeper.Proofs.Console.Escape
import ConfigKeeper.Proofs.Sync.Alongside
import ConfigKeeper.Proofs.Sync.Account
import ConfigKeeper.Proofs.Store.Maps
import ConfigKeeper.Proofs.Sync.Comparison
import ConfigKeeper.Proofs.Sync.Convergence
import ConfigKeeper.Proofs.Sync.Return
import ConfigKeeper.Proofs.Sync.Verdict
import ConfigKeeper.Proofs.Store.RoundTrip
import ConfigKeeper.Proofs.Log.SetUp
import ConfigKeeper.Proofs.Store.Typed
import ConfigKeeper.Proofs.Report.Shown
import ConfigKeeper.Proofs.Lint.Clean
import ConfigKeeper.Proofs.Sync.Success
import ConfigKeeper.Proofs.CommandLine.ExitStatus
import ConfigKeeper.Proofs.Sync.Destinations
import ConfigKeeper.Proofs.Lint.Marking
import ConfigKeeper.Proofs.Project.Search
import ConfigKeeper.Proofs.Lint.Order
import ConfigKeeper.Proofs.Elixir.Nodes
import ConfigKeeper.Proofs.Lint.Found
import ConfigKeeper.Proofs.Lint.Reported
import ConfigKeeper.Proofs.Lint.EnvironmentReads
import ConfigKeeper.Proofs.Elixir.Literals
import ConfigKeeper.Proofs.Elixir.Grammar
import ConfigKeeper.Proofs.Lint.GuardedImports
import ConfigKeeper.Proofs.Secret.Whole
import ConfigKeeper.Proofs.Text.Split
import ConfigKeeper.Proofs.Secret.Locator
import ConfigKeeper.Proofs.Elixir.Spots
import ConfigKeeper.Proofs.Elixir.Imports
import ConfigKeeper.Proofs.Secret.Candidates
import ConfigKeeper.Proofs.Secret.Comment
import ConfigKeeper.Proofs.Log.Returns
import ConfigKeeper.Proofs.Diff.Emphasis
import ConfigKeeper.Proofs.Report.DiffLine
import ConfigKeeper.Lint.Span
import ConfigKeeper.Proofs.Text.Boundary
import ConfigKeeper.Proofs.Lint.Span
import ConfigKeeper.Proofs.Report.Excerpt
import ConfigKeeper.Proofs.Secret.Given
import ConfigKeeper.Proofs.Secret.Renamed
import ConfigKeeper.Proofs.Diff.Ranges
import ConfigKeeper.Proofs.Lint.History
import ConfigKeeper.Proofs.Text.Trim
import ConfigKeeper.Proofs.Settings
import ConfigKeeper.Proofs.Wildcard.Faults
import ConfigKeeper.Proofs.Project.IgnoreFile
import ConfigKeeper.Proofs.Text.Points
import ConfigKeeper.Proofs.Project.MatchPath
import ConfigKeeper.Proofs.Log.Override
