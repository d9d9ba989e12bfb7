import YamlDialects.Assist.Completion
import YamlDialects.Assist.Context
import YamlDialects.Assist.Hover
import YamlDialects.Assist.Proposal
import YamlDialects.Catalog
import YamlDialects.IndexCache.Basic
import YamlDialects.IndexCache.MetadataFile
import YamlDialects.IndexCache.Schedule
import YamlDialects.Json.Basic
import YamlDialects.Json.Reader
import YamlDialects.Json.Writer
import YamlDialects.Main
import YamlDialects.Markdown
import YamlDialects.Names
import YamlDialects.Outline.Basic
import YamlDialects.Outline.Block
import YamlDialects.Outline.Line
import YamlDialects.Path.Search
import YamlDialects.Path.Traversal
import YamlDialects.Pattern.Basic
import YamlDialects.Pattern.Expression.Basic
import YamlDialects.Pattern.Expression.Escape
import YamlDialects.Pattern.Expression.Reader
import YamlDialects.Pattern.Expression.Set
import YamlDialects.Pattern.Meaning
import YamlDialects.Problem
import YamlDialects.Proofs.Assist.Acceptance
import YamlDialects.Proofs.Assist.Agreement
import YamlDialects.Proofs.Assist.Keeping
import YamlDialects.Proofs.Assist.Keys
import YamlDialects.Proofs.Assist.Landing
import YamlDialects.Proofs.Assist.Proposing
import YamlDialects.Proofs.Assist.Siblings
import YamlDialects.Proofs.IndexCache.Change
import YamlDialects.Proofs.IndexCache.Entries
import YamlDialects.Proofs.IndexCache.Eviction
import YamlDialects.Proofs.IndexCache.Invalidation
import YamlDialects.Proofs.IndexCache.Locks
import YamlDialects.Proofs.IndexCache.Provenance
import YamlDialects.Proofs.IndexCache.SingleFlight
import YamlDialects.Proofs.IndexCache.Timeline
import YamlDialects.Proofs.IndexCache.Traffic
import YamlDialects.Proofs.KeyPaths
import YamlDialects.Proofs.Landmark
import YamlDialects.Proofs.Outline.Canonical
import YamlDialects.Proofs.Outline.Counterpart
import YamlDialects.Proofs.Outline.Deepest
import YamlDialects.Proofs.Outline.Entries
import YamlDialects.Proofs.Outline.Growth
import YamlDialects.Proofs.Outline.Indentation
import YamlDialects.Proofs.Outline.Insertion
import YamlDialects.Proofs.Outline.Keeping
import YamlDialects.Proofs.Outline.Landing
import YamlDialects.Proofs.Outline.Landmarks
import YamlDialects.Proofs.Outline.Line
import YamlDialects.Proofs.Outline.LineEnds
import YamlDialects.Proofs.Outline.Marks
import YamlDialects.Proofs.Outline.Navigation
import YamlDialects.Proofs.Outline.Order
import YamlDialects.Proofs.Outline.Readback
import YamlDialects.Proofs.Outline.Reparenting
import YamlDialects.Proofs.Outline.Returns
import YamlDialects.Proofs.Outline.SameTree
import YamlDialects.Proofs.Outline.Shape
import YamlDialects.Proofs.Outline.Spine
import YamlDialects.Proofs.Outline.WellFormed
import YamlDialects.Proofs.Path.Descent
import YamlDialects.Proofs.Path.Stream
import YamlDialects.Proofs.Schema.Closure
import YamlDialects.Proofs.Schema.Description
import YamlDialects.Proofs.Schema.Growth
import YamlDialects.Proofs.Schema.Inference
import YamlDialects.Proofs.Schema.Loading
import YamlDialects.Proofs.Schema.Spelling
import YamlDialects.Proofs.Server.AtRest
import YamlDialects.Proofs.Server.Attention
import YamlDialects.Proofs.Server.Cycle
import YamlDialects.Proofs.Server.Interleaving
import YamlDialects.Proofs.Server.Orderly
import YamlDialects.Proofs.Text.Lines
import YamlDialects.Proofs.Text.Offset
import YamlDialects.Proofs.Validation.Conformance
import YamlDialects.Proofs.Validation.Damaged
import YamlDialects.Proofs.Validation.Once
import YamlDialects.Proofs.Validation.Silence
import YamlDialects.Proofs.Validation.Visits
import YamlDialects.Proofs.Workflows.Acceptance
import YamlDialects.Proofs.Workflows.Typing
import YamlDialects.Proofs.Yaml.Abreast
import YamlDialects.Proofs.Yaml.Composition
import YamlDialects.Proofs.Yaml.Damage
import YamlDialects.Proofs.Yaml.Event.Collection
import YamlDialects.Proofs.Yaml.Event.Node
import YamlDialects.Proofs.Yaml.Event.Order
import YamlDialects.Proofs.Yaml.Event.Turn
import YamlDialects.Proofs.Yaml.Frames
import YamlDialects.Proofs.Yaml.Leaves
import YamlDialects.Proofs.Yaml.Lookup
import YamlDialects.Proofs.Yaml.Reading
import YamlDialects.Proofs.Yaml.Recovery
import YamlDialects.Proofs.Yaml.Regions
import YamlDialects.Proofs.Yaml.Rounds
import YamlDialects.Proofs.Yaml.Slicing
import YamlDialects.Proofs.Yaml.Spelling
import YamlDialects.Proofs.Yaml.Survey
import YamlDialects.Proofs.Yaml.Suspect
import YamlDialects.Proofs.Yaml.Token.Blocks
import YamlDialects.Proofs.Yaml.Token.Finding
import YamlDialects.Proofs.Yaml.Token.Motion
import YamlDialects.Proofs.Yaml.Token.Next
import YamlDialects.Proofs.Yaml.Token.Order
import YamlDialects.Proofs.Yaml.Token.Scalars
import YamlDialects.Proofs.Yaml.Walk
import YamlDialects.Schema.Basic
import YamlDialects.Schema.Constraint
import YamlDialects.Schema.Context
import YamlDialects.Schema.Declaration.Basic
import YamlDialects.Schema.Declaration.Reader
import YamlDialects.Schema.Dialect
import YamlDialects.Schema.Error
import YamlDialects.Schema.Graph
import YamlDialects.Schema.Hint
import YamlDialects.Schema.Index
import YamlDialects.Schema.ValueRule
import YamlDialects.Schema.Workflows
import YamlDialects.Server.Address
import YamlDialects.Server.Address.Basic
import YamlDialects.Server.Address.Domain
import YamlDialects.Server.Address.Mapping
import YamlDialects.Server.Document
import YamlDialects.Server.Message
import YamlDialects.Server.Parameters.Capabilities
import YamlDialects.Server.Parameters.Requests
import YamlDialects.Server.Parameters.Shape
import YamlDialects.Server.Session
import YamlDialects.Server.Wire
import YamlDialects.Server.Workspace
import YamlDialects.Settings
import YamlDialects.Text.Blank
import YamlDialects.Text.Case
import YamlDialects.Text.CharSet
import YamlDialects.Text.Folding
import YamlDialects.Text.Lines
import YamlDialects.Text.Normalization
import YamlDialects.Text.Offset
import YamlDialects.Text.Printable
import YamlDialects.Text.Punycode
import YamlDialects.Text.Search
import YamlDialects.Text.Unicode.Age
import YamlDialects.Text.Unicode.Basic
import YamlDialects.Text.Unicode.Break
import YamlDialects.Text.Unicode.Category
import YamlDialects.Text.Unicode.Composition
import YamlDialects.Text.Unicode.Direction
import YamlDialects.Text.Unicode.Property
import YamlDialects.Text.Unicode.Query
import YamlDialects.Text.Unicode.Script
import YamlDialects.Text.Word
import YamlDialects.Validation.Basic
import YamlDialects.Validation.Document
import YamlDialects.Width
import YamlDialects.Yaml.Chars
import YamlDialects.Yaml.Compose
import YamlDialects.Yaml.Data.BlockScalar
import YamlDialects.Yaml.Data.Content
import YamlDialects.Yaml.Data.Input
import YamlDialects.Yaml.Data.Lexer
import YamlDialects.Yaml.Data.Quoted
import YamlDialects.Yaml.Data.Reader
import YamlDialects.Yaml.Data.Tag
import YamlDialects.Yaml.Data.Value
import YamlDialects.Yaml.Event.Basic
import YamlDialects.Yaml.Event.Reader
import YamlDialects.Yaml.Fault
import YamlDialects.Yaml.Node
import YamlDialects.Yaml.Recovery
import YamlDialects.Yaml.Scalar
import YamlDialects.Yaml.Token.Basic
import YamlDialects.Yaml.Token.BlockScalar
import YamlDialects.Yaml.Token.Lexer
import YamlDialects.Yaml.Token.Next
import YamlDialects.Yaml.Token.Plain
import YamlDialects.Yaml.Token.Quoted
import YamlDialects.Yaml.Token.Tag
import YamlDialects.Yaml.Tree
import YamlDialects.Yaml.Value
import YamlDialects.Proofs.Assist.Hover
import YamlDialects.Proofs.Schema.Fixpoint
import YamlDialects.Proofs.Assist.Repeats
import YamlDialects.Proofs.Outline.Cutting
import YamlDialects.Proofs.Assist.Cutting
import YamlDialects.Proofs.Assist.CursorLine
import YamlDialects.Proofs.Path.Composition
import YamlDialects.Proofs.Schema.Discrimination
import YamlDialects.Proofs.Schema.Rearrangement
import YamlDialects.Proofs.Names
import YamlDialects.Proofs.Path.Route
import YamlDialects.Proofs.Assist.Matching
import YamlDialects.Proofs.Assist.Snippet
