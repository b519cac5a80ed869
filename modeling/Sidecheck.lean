import Sidecheck.Ansi
import Sidecheck.Check
import Sidecheck.Checker
import Sidecheck.Cli
import Sidecheck.Command
import Sidecheck.Config.Comments
import Sidecheck.Config.File
import Sidecheck.Coordinator
import Sidecheck.Diagnostic
import Sidecheck.Disk
import Sidecheck.FileUri
import Sidecheck.Frame
import Sidecheck.Glob.Basic
import Sidecheck.Glob.Matching
import Sidecheck.Glob.Nesting
import Sidecheck.Glob.Parser
import Sidecheck.HostName.Address
import Sidecheck.HostName.Basic
import Sidecheck.HostName.Label
import Sidecheck.HostName.Mapping
import Sidecheck.HostName.Punycode
import Sidecheck.Json.Basic
import Sidecheck.Json.Reader
import Sidecheck.Json.Shape
import Sidecheck.Json.Token
import Sidecheck.Json.Writer
import Sidecheck.LineIndex
import Sidecheck.Listing
import Sidecheck.Location
import Sidecheck.Machine
import Sidecheck.Main
import Sidecheck.Normalize
import Sidecheck.Options
import Sidecheck.Overlay
import Sidecheck.Path
import Sidecheck.Payload
import Sidecheck.Proofs.Alternation
import Sidecheck.Proofs.Appearing
import Sidecheck.Proofs.Below
import Sidecheck.Proofs.Blocks
import Sidecheck.Proofs.Building
import Sidecheck.Proofs.Carets
import Sidecheck.Proofs.Coalescing
import Sidecheck.Proofs.Columns
import Sidecheck.Proofs.Commenting
import Sidecheck.Proofs.Compact
import Sidecheck.Proofs.Convergence
import Sidecheck.Proofs.Coordination
import Sidecheck.Proofs.Creating
import Sidecheck.Proofs.Flagging
import Sidecheck.Proofs.Framing
import Sidecheck.Proofs.Globbing
import Sidecheck.Proofs.Hanging
import Sidecheck.Proofs.Heading
import Sidecheck.Proofs.History
import Sidecheck.Proofs.Items
import Sidecheck.Proofs.LastWord
import Sidecheck.Proofs.Layout
import Sidecheck.Proofs.Lookup
import Sidecheck.Proofs.Merging
import Sidecheck.Proofs.OverlayLines
import Sidecheck.Proofs.Pieces
import Sidecheck.Proofs.Placing
import Sidecheck.Proofs.Positions
import Sidecheck.Proofs.Posting
import Sidecheck.Proofs.Protocol
import Sidecheck.Proofs.Publishing
import Sidecheck.Proofs.Rebuilding
import Sidecheck.Proofs.Rechecking
import Sidecheck.Proofs.Recovering
import Sidecheck.Proofs.Removal
import Sidecheck.Proofs.Renaming
import Sidecheck.Proofs.Reporting
import Sidecheck.Proofs.Rewriting
import Sidecheck.Proofs.RoundTrip
import Sidecheck.Proofs.Segments
import Sidecheck.Proofs.Serving
import Sidecheck.Proofs.Spelling
import Sidecheck.Proofs.Stages
import Sidecheck.Proofs.Styling
import Sidecheck.Proofs.Subtrees
import Sidecheck.Proofs.Taking
import Sidecheck.Proofs.Teamwork
import Sidecheck.Proofs.Traversal
import Sidecheck.Proofs.Trimming
import Sidecheck.Proofs.Uncommented
import Sidecheck.Proofs.Unlinking
import Sidecheck.Proofs.Verdict
import Sidecheck.Proofs.Walking
import Sidecheck.Record.Basic
import Sidecheck.Record.Reader
import Sidecheck.Report
import Sidecheck.Run
import Sidecheck.Session
import Sidecheck.Settings
import Sidecheck.Severity
import Sidecheck.Shell.Expansion
import Sidecheck.Shell.Words
import Sidecheck.Snapshot
import Sidecheck.Store
import Sidecheck.Text.Blank
import Sidecheck.Text.Composition
import Sidecheck.Text.Direction
import Sidecheck.Text.Joining
import Sidecheck.Text.Lines
import Sidecheck.Text.Mark
import Sidecheck.Text.Split
import Sidecheck.Text.Table
import Sidecheck.Text.Utf16
import Sidecheck.Text.Utf8
import Sidecheck.Text.Word
import Sidecheck.Watch.Event
import Sidecheck.Watch.Matcher
import Sidecheck.Watch.Queue
import Sidecheck.Watch.Watcher
import Sidecheck.Worker.Build
import Sidecheck.Worker.Event
import Sidecheck.Worker.Serve
