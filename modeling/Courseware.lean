import Courseware.Chunk.Split
import Courseware.Context.Stats
import Courseware.Json.Parser
import Courseware.Json.Printer
import Courseware.Material.Wire
import Courseware.Response.Validation
import Courseware.Provider.Chain
import Courseware.Provider.Script
import Courseware.Run.Basic
import Courseware.Sink.Memory
import Courseware.Sink.Faulty
import Courseware.Settings.Load
import Courseware.Settings.Describe
import Courseware.Provider.Directory
import Courseware.Chunk.Wire
import Courseware.Source
import Courseware.Cli.Command
import Courseware.Main
import Courseware.Proofs.Chunk.Span
import Courseware.Proofs.Chunk.Boundary
import Courseware.Proofs.Chunk.Segment
import Courseware.Proofs.Chunk.Window
import Courseware.Proofs.Chunk.Split
import Courseware.Proofs.Chunk.Words
import Courseware.Proofs.Chunk.Size
import Courseware.Proofs.Chunk.Sentence
import Courseware.Proofs.Context.Truncation
import Courseware.Proofs.Context.Bounded
import Courseware.Proofs.Context.Fallback
import Courseware.Proofs.Generation.Attempt
import Courseware.Proofs.Run.Simulation
import Courseware.Proofs.Run.Episode
import Courseware.Proofs.Run.Isolation
import Courseware.Proofs.Sink.Table
import Courseware.Proofs.Sink.Edit
import Courseware.Proofs.Run.History
import Courseware.Proofs.Run.Process
import Courseware.Proofs.Run.Interleaving
import Courseware.Proofs.Steps
import Courseware.Proofs.Lookup
import Courseware.Proofs.Json.Member
import Courseware.Proofs.Response.Item
import Courseware.Proofs.Response.Validation
import Courseware.Proofs.Json.Reader
import Courseware.Proofs.Json.Spelling
import Courseware.Proofs.Json.Grammar
import Courseware.Proofs.Json.Scalar
import Courseware.Proofs.Json.RoundTrip
import Courseware.Proofs.Response.Canonical
import Courseware.Proofs.Provider.Chain
import Courseware.Proofs.Relevance.Order
import Courseware.Proofs.Relevance.Selection
import Courseware.Proofs.Context.Narrative
import Courseware.Proofs.Json.Extent
import Courseware.Proofs.Response.Fence
import Courseware.Proofs.Response.Prose
import Courseware.Proofs.Response.Block
import Courseware.Proofs.Chunk.Division
import Courseware.Proofs.Chunk.Space
import Courseware.Proofs.Response.Answer
import Courseware.Proofs.Response.Alias
import Courseware.Proofs.Run.Alert
import Courseware.Proofs.Provider.Directory
import Courseware.Proofs.Settings.Weights
import Courseware.Proofs.Prompt
import Courseware.Proofs.Source
import Courseware.Proofs.Html.PlainText
import Courseware.Proofs.Html.Bullet
import Courseware.Proofs.Settings.Describe
import Courseware.Proofs.Html.Image
import Courseware.Proofs.Text.Offset
import Courseware.Proofs.Chunk.Offset
import Courseware.Proofs.Context.Offset
