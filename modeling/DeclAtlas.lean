import DeclAtlas.Builtin
import DeclAtlas.CType
import DeclAtlas.CommandLine.Arguments
import DeclAtlas.CommandLine.Request
import DeclAtlas.CommandLine.Run
import DeclAtlas.Config
import DeclAtlas.Console.Colour
import DeclAtlas.Console.Emoji
import DeclAtlas.Console.Glyph
import DeclAtlas.Console.Literal
import DeclAtlas.Console.Markup
import DeclAtlas.Console.Plain
import DeclAtlas.Console.Style
import DeclAtlas.Console.Table
import DeclAtlas.Console.Wrap
import DeclAtlas.Declaration
import DeclAtlas.Diagnostic
import DeclAtlas.Extraction.Conversion
import DeclAtlas.Extraction.Definition
import DeclAtlas.Extraction.Incomplete
import DeclAtlas.Extraction.Members
import DeclAtlas.Extraction.Pruning
import DeclAtlas.Extraction.Recursion
import DeclAtlas.Extraction.Run
import DeclAtlas.Extraction.TopLevel
import DeclAtlas.Failure
import DeclAtlas.Fault
import DeclAtlas.FileTree
import DeclAtlas.Filter
import DeclAtlas.FrontEnd
import DeclAtlas.Graph
import DeclAtlas.IdSet
import DeclAtlas.Json.Basic
import DeclAtlas.Json.Checked
import DeclAtlas.Json.Number
import DeclAtlas.Json.Read
import DeclAtlas.Json.Write
import DeclAtlas.Listing
import DeclAtlas.Main
import DeclAtlas.Member
import DeclAtlas.Nesting
import DeclAtlas.Note
import DeclAtlas.Path
import DeclAtlas.Pattern.Basic
import DeclAtlas.Pattern.Expression
import DeclAtlas.Pattern.Search
import DeclAtlas.Proofs.Closure
import DeclAtlas.Proofs.Coherence
import DeclAtlas.Proofs.Completed
import DeclAtlas.Proofs.Concluded
import DeclAtlas.Proofs.Containment
import DeclAtlas.Proofs.Converted
import DeclAtlas.Proofs.Covering
import DeclAtlas.Proofs.Declared
import DeclAtlas.Proofs.Defined
import DeclAtlas.Proofs.Depth
import DeclAtlas.Proofs.Exactness
import DeclAtlas.Proofs.Extracted
import DeclAtlas.Proofs.Frame
import DeclAtlas.Proofs.Identity
import DeclAtlas.Proofs.Isolation
import DeclAtlas.Proofs.Listed
import DeclAtlas.Proofs.Meaning
import DeclAtlas.Proofs.Passing
import DeclAtlas.Proofs.Pruned
import DeclAtlas.Proofs.Registered
import DeclAtlas.Proofs.Reported
import DeclAtlas.Proofs.Rollback
import DeclAtlas.Proofs.Runs
import DeclAtlas.Proofs.Skipping
import DeclAtlas.Proofs.Unreported
import DeclAtlas.Proofs.Visit
import DeclAtlas.Proofs.Walked
import DeclAtlas.Registry
import DeclAtlas.Schema.Declaration
import DeclAtlas.Schema.Encode
import DeclAtlas.Schema.Graph
import DeclAtlas.Schema.Type
import DeclAtlas.Schema.Unit
import DeclAtlas.Snapshot
import DeclAtlas.Step
import DeclAtlas.Table
import DeclAtlas.Text.Identifier
import DeclAtlas.Text.Letter
import DeclAtlas.Text.Likeness
import DeclAtlas.Text.Printable
import DeclAtlas.Text.Quoted
import DeclAtlas.Text.Ranges
import DeclAtlas.Text.Width
import DeclAtlas.Unit.Basic
import DeclAtlas.Unit.Kind
import DeclAtlas.Unit.Tag
import DeclAtlas.Unit.Walk
import DeclAtlas.Workspace
import DeclAtlas.Proofs.Bookkeeping
import DeclAtlas.Proofs.Ownership
import DeclAtlas.Proofs.Tabulated
import DeclAtlas.Proofs.Linked
import DeclAtlas.Proofs.Survival
import DeclAtlas.Proofs.Demand
import DeclAtlas.Proofs.Termination
import DeclAtlas.Proofs.Recovery
import DeclAtlas.Proofs.RoundTrip
import DeclAtlas.Proofs.Written
import DeclAtlas.Proofs.Saved
import DeclAtlas.Proofs.Sharing
import DeclAtlas.Proofs.Arguments
import DeclAtlas.Proofs.Recorded
import DeclAtlas.Proofs.Sweep
import DeclAtlas.Proofs.Stability
import DeclAtlas.Proofs.Course
import DeclAtlas.Proofs.Scopes
import DeclAtlas.Proofs.Preorder
import DeclAtlas.Proofs.Resaved
import DeclAtlas.Proofs.Contributed
import DeclAtlas.Proofs.Nearest
import DeclAtlas.Proofs.Offsets
