import RuleCatalog.Base64
import RuleCatalog.Catalog.Basic
import RuleCatalog.Catalog.Build
import RuleCatalog.Catalog.Call
import RuleCatalog.Catalog.Sync
import RuleCatalog.Classification.Entry
import RuleCatalog.Classification.Key
import RuleCatalog.Classification.Text
import RuleCatalog.Cluster.ActiveProgram
import RuleCatalog.Cluster.Activity
import RuleCatalog.Cluster.Basic
import RuleCatalog.Cluster.Worker
import RuleCatalog.Cluster.World
import RuleCatalog.Config.Basic
import RuleCatalog.Config.Document
import RuleCatalog.Json.Text
import RuleCatalog.Json.Value
import RuleCatalog.Number.Binary64
import RuleCatalog.Number.Decimal
import RuleCatalog.Number.Period
import RuleCatalog.Override.Edit
import RuleCatalog.Override.Entries
import RuleCatalog.Override.ResourceName
import RuleCatalog.Pattern.Class
import RuleCatalog.Pattern.Escape
import RuleCatalog.Pattern.Form
import RuleCatalog.Pattern.Memory
import RuleCatalog.Pattern.Program
import RuleCatalog.Pattern.Read
import RuleCatalog.Pattern.Search
import RuleCatalog.Pattern.Syntax
import RuleCatalog.Pattern.Template
import RuleCatalog.Proofs.Catalog.Account
import RuleCatalog.Proofs.Catalog.Draft
import RuleCatalog.Proofs.Catalog.Labels
import RuleCatalog.Proofs.Catalog.Matching
import RuleCatalog.Proofs.Catalog.Overridden
import RuleCatalog.Proofs.Catalog.RulePlace
import RuleCatalog.Proofs.Catalog.Stamp
import RuleCatalog.Proofs.Catalog.TrustBoundary
import RuleCatalog.Proofs.Classification.Entry
import RuleCatalog.Proofs.Classification.Key
import RuleCatalog.Proofs.Classification.Spelling
import RuleCatalog.Proofs.Cluster.Atomic
import RuleCatalog.Proofs.Cluster.Coherence
import RuleCatalog.Proofs.Cluster.Moves
import RuleCatalog.Proofs.Cluster.Operation
import RuleCatalog.Proofs.Cluster.Quiescence
import RuleCatalog.Proofs.Cluster.Scene
import RuleCatalog.Proofs.Cluster.Schedule
import RuleCatalog.Proofs.Cluster.SyncPhase
import RuleCatalog.Proofs.Cluster.Turn
import RuleCatalog.Proofs.Number.Binary64
import RuleCatalog.Proofs.Number.Decimal
import RuleCatalog.Proofs.Override.Effect
import RuleCatalog.Proofs.Override.Family
import RuleCatalog.Proofs.Override.Isolation
import RuleCatalog.Proofs.Override.Machine
import RuleCatalog.Proofs.Override.Merge
import RuleCatalog.Proofs.Override.Realization
import RuleCatalog.Proofs.Override.Recognition
import RuleCatalog.Proofs.Override.Repeat
import RuleCatalog.Proofs.Override.ResourceName
import RuleCatalog.Proofs.Override.State
import RuleCatalog.Proofs.Pattern.ReadLiteral
import RuleCatalog.Proofs.Pattern.SearchLiteral
import RuleCatalog.Proofs.Query.Blanks
import RuleCatalog.Proofs.Query.EvenGaps
import RuleCatalog.Proofs.Query.Idempotence
import RuleCatalog.Proofs.Query.Layout
import RuleCatalog.Proofs.Query.Lexeme
import RuleCatalog.Proofs.Query.Lookahead
import RuleCatalog.Proofs.Query.NormalForm
import RuleCatalog.Proofs.Query.Numeral
import RuleCatalog.Proofs.Query.Precedence
import RuleCatalog.Proofs.Query.Printed
import RuleCatalog.Proofs.Query.ReadShape
import RuleCatalog.Proofs.Query.ReadTokens
import RuleCatalog.Proofs.Query.Relayout
import RuleCatalog.Proofs.Query.RoundTrip
import RuleCatalog.Proofs.Query.Shape
import RuleCatalog.Proofs.Query.Signs
import RuleCatalog.Proofs.Query.Size
import RuleCatalog.Proofs.Query.Sorted
import RuleCatalog.Proofs.Query.Tokens
import RuleCatalog.Proofs.Rule.Edit
import RuleCatalog.Proofs.Rule.Group
import RuleCatalog.Proofs.Rule.Identity
import RuleCatalog.Proofs.Rule.Span
import RuleCatalog.Proofs.Service.Alone
import RuleCatalog.Proofs.Service.Amending
import RuleCatalog.Proofs.Service.Amendment
import RuleCatalog.Proofs.Service.Attempt
import RuleCatalog.Proofs.Service.Boundary
import RuleCatalog.Proofs.Service.Classification
import RuleCatalog.Proofs.Service.Commit
import RuleCatalog.Proofs.Service.Contest
import RuleCatalog.Proofs.Service.Creation
import RuleCatalog.Proofs.Service.Distinct
import RuleCatalog.Proofs.Service.Edits
import RuleCatalog.Proofs.Service.Listing
import RuleCatalog.Proofs.Service.Outcome
import RuleCatalog.Proofs.Service.Patched
import RuleCatalog.Proofs.Service.Race
import RuleCatalog.Proofs.Service.Writes
import RuleCatalog.Proofs.SortedMap
import RuleCatalog.Proofs.Store
import RuleCatalog.Proofs.Store.History
import RuleCatalog.Proofs.WorkQueue
import RuleCatalog.Proofs.WorkQueue.Deadline
import RuleCatalog.Proofs.WorkQueue.Timeline
import RuleCatalog.Query.Canonical
import RuleCatalog.Query.Expr
import RuleCatalog.Query.Expr.Print
import RuleCatalog.Query.Expr.Read
import RuleCatalog.Query.Token
import RuleCatalog.Query.Token.Scan
import RuleCatalog.Relabel.Entry
import RuleCatalog.Relabel.Payload
import RuleCatalog.Relabel.Run
import RuleCatalog.Resource.Kinds
import RuleCatalog.Resource.Metadata
import RuleCatalog.Resource.Timestamp
import RuleCatalog.Rule.Basic
import RuleCatalog.Rule.Error
import RuleCatalog.Rule.Group
import RuleCatalog.Rule.Identity
import RuleCatalog.Rule.Label
import RuleCatalog.Rule.Match
import RuleCatalog.Rule.Span
import RuleCatalog.Script
import RuleCatalog.Service.Classification
import RuleCatalog.Service.Error
import RuleCatalog.Service.Override
import RuleCatalog.Service.Retry
import RuleCatalog.Service.Rule
import RuleCatalog.Service.Store
import RuleCatalog.Sha256
import RuleCatalog.SortedMap
import RuleCatalog.Store.Basic
import RuleCatalog.Store.Call
import RuleCatalog.Text.Age
import RuleCatalog.Text.Ascii
import RuleCatalog.Text.Blank
import RuleCatalog.Text.Break
import RuleCatalog.Text.ByteRows
import RuleCatalog.Text.Category
import RuleCatalog.Text.Fold
import RuleCatalog.Text.Newer
import RuleCatalog.Text.Property
import RuleCatalog.Text.Property.Binary
import RuleCatalog.Text.Property.Case
import RuleCatalog.Text.Property.Emoji
import RuleCatalog.Text.Property.Identifier
import RuleCatalog.Text.Property.Letter
import RuleCatalog.Text.Property.Mark
import RuleCatalog.Text.Property.Punctuation
import RuleCatalog.Text.Quoted
import RuleCatalog.Text.Ranges
import RuleCatalog.Text.Script
import RuleCatalog.Text.Script.Shared
import RuleCatalog.Text.Utf8
import RuleCatalog.Text.Visible
import RuleCatalog.WorkQueue
import RuleCatalog.Yaml.Cursor
import RuleCatalog.Yaml.Field
import RuleCatalog.Yaml.Node
import RuleCatalog.Yaml.Scalar
import RuleCatalog.Yaml.Token
import RuleCatalog.Yaml.Token.Scan
