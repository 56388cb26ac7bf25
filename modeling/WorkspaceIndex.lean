import WorkspaceIndex.Main
import WorkspaceIndex.Proofs.FileStore.Change
import WorkspaceIndex.Proofs.Run.Calls
import WorkspaceIndex.Proofs.Plan.Build
import WorkspaceIndex.Proofs.Compiler.Outcome
import WorkspaceIndex.Proofs.Pipeline.Modules
import WorkspaceIndex.Proofs.Pipeline.Stages
import WorkspaceIndex.Proofs.Pipeline.Completed
import WorkspaceIndex.Proofs.Pipeline.FailFast
import WorkspaceIndex.Proofs.Manifest.BuildOrder
import WorkspaceIndex.Proofs.Manifest.Parsed
import WorkspaceIndex.Proofs.Path.Dedup
import WorkspaceIndex.Proofs.Manifest.Graph
import WorkspaceIndex.Proofs.Pipeline.Schedule
import WorkspaceIndex.Proofs.Pipeline.SilentHooks
import WorkspaceIndex.Proofs.Plan.Determined
import WorkspaceIndex.Proofs.Report.Explanation
import WorkspaceIndex.Proofs.Report.Prediction
import WorkspaceIndex.Proofs.Path.Absolute
import WorkspaceIndex.Proofs.FileStore.Walk
import WorkspaceIndex.Proofs.Manifest.Root
import WorkspaceIndex.Proofs.Pipeline.AnchoredCalls
import WorkspaceIndex.Proofs.Plan.Refused
import WorkspaceIndex.Proofs.Pipeline.Attempts
import WorkspaceIndex.Proofs.Manifest.Sections
import WorkspaceIndex.Proofs.Manifest.Decoded
import WorkspaceIndex.Proofs.Manifest.KeyOrder
import WorkspaceIndex.Proofs.Path.Joined
import WorkspaceIndex.Proofs.FileStore.Reach
import WorkspaceIndex.Proofs.FileStore.Watched
import WorkspaceIndex.Proofs.Pipeline.Watched
import WorkspaceIndex.Proofs.Report.Visualized
import WorkspaceIndex.Proofs.Text.Lines
import WorkspaceIndex.Proofs.Text.Pieces
import WorkspaceIndex.Proofs.Text.Numerals
import WorkspaceIndex.Proofs.Version.Written
import WorkspaceIndex.Proofs.JavaRuntime.VersionToken
import WorkspaceIndex.Proofs.Text.Utf8
import WorkspaceIndex.Proofs.Jar.Archive
import WorkspaceIndex.Proofs.OutputFormat.FileName
import WorkspaceIndex.Proofs.Pipeline.Format
import WorkspaceIndex.Proofs.Compiler.Verdict
import WorkspaceIndex.Proofs.Compiler.Streams
import WorkspaceIndex.Proofs.Compiler.Scala3
import WorkspaceIndex.Proofs.Text.Words
import WorkspaceIndex.Proofs.Compiler.Arguments
import WorkspaceIndex.Proofs.Plan.Options
import WorkspaceIndex.Proofs.Plan.Laws
import WorkspaceIndex.Proofs.Plan.JavacPlugin
import WorkspaceIndex.Proofs.Jar.Candidate
import WorkspaceIndex.Proofs.Jar.Properties
import WorkspaceIndex.Proofs.Path.Same
import WorkspaceIndex.Proofs.Pipeline.Kept
import WorkspaceIndex.Proofs.Pipeline.ClasspathFile
import WorkspaceIndex.Proofs.Pipeline.Aggregate
import WorkspaceIndex.Proofs.JavaRuntime.VersionLine
import WorkspaceIndex.Proofs.Indexer.Outcome
import WorkspaceIndex.Proofs.Report.Accounts
import WorkspaceIndex.Proofs.Toml.Cursor
import WorkspaceIndex.Proofs.Toml.Invariant
import WorkspaceIndex.Proofs.Toml.Places
import WorkspaceIndex.Proofs.Manifest.Labels
import WorkspaceIndex.Proofs.Path.Below
import WorkspaceIndex.Proofs.Manifest.DefaultOutput
import WorkspaceIndex.Proofs.Manifest.LabelBytes
import WorkspaceIndex.Proofs.Compiler.Segments
