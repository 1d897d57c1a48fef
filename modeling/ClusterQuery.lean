import ClusterQuery.Text.Blank
import ClusterQuery.Text.Numeral
import ClusterQuery.Access
import ClusterQuery.Aggregation
import ClusterQuery.ClusterView
import ClusterQuery.Command.Deployment
import ClusterQuery.Http.Message
import ClusterQuery.Main
import ClusterQuery.Proofs.Merge.StableSort
import ClusterQuery.Proofs.ValueOrder
import ClusterQuery.Proofs.Merge.Interleaving
import ClusterQuery.Proofs.Merge.Reference
import ClusterQuery.Proofs.FanOut
import ClusterQuery.Proofs.Aggregation
import ClusterQuery.Proofs.Directory
import ClusterQuery.Proofs.Gateway
import ClusterQuery.Proofs.Text.Numeral
import ClusterQuery.Proofs.Text.Trimming
import ClusterQuery.Proofs.Time.Calendar
import ClusterQuery.Proofs.Time.Rfc3339
import ClusterQuery.Proofs.Query.FieldPath
import ClusterQuery.Proofs.Record.Domain
import ClusterQuery.Proofs.Query.CanonicalText
import ClusterQuery.Proofs.Directory.Journal
import ClusterQuery.Proofs.Aggregation.Accounting
import ClusterQuery.Proofs.Gateway.Admission
import ClusterQuery.Proofs.Gateway.PushDown
import ClusterQuery.Proofs.Record.Extraction
import ClusterQuery.Proofs.Directory.Freshness
import ClusterQuery.Proofs.ClusterView
import ClusterQuery.Proofs.Gateway.ClusterView
import ClusterQuery.Proofs.Gateway.OwnRecord
import ClusterQuery.Proofs.FanOut.Influence
import ClusterQuery.Proofs.Merge.Repeats
import ClusterQuery.Proofs.Merge.Hierarchy
import ClusterQuery.Proofs.Gateway.Condensing
import ClusterQuery.Proofs.ClusterView.Agreement
import ClusterQuery.Proofs.Metrics
import ClusterQuery.Proofs.Gateway.Counters
import ClusterQuery.Proofs.Number.Rounding
import ClusterQuery.Proofs.Json.NumberText
import ClusterQuery.Proofs.Json.DocumentText
import ClusterQuery.Proofs.Json.Equality
import ClusterQuery.Proofs.Record.Equality
import ClusterQuery.Proofs.Merge.Rearrangement
import ClusterQuery.Proofs.Merge.EqualRecords
import ClusterQuery.Proofs.Aggregation.Selection
import ClusterQuery.Proofs.Json.Finite
import ClusterQuery.Proofs.Record.OfKind
import ClusterQuery.Proofs.Query.Layout
import ClusterQuery.Proofs.Record.Acceptance
import ClusterQuery.Proofs.Query.DeclaredPaths
import ClusterQuery.Proofs.Endpoint
import ClusterQuery.Proofs.Labels
import ClusterQuery.Proofs.Node.Descriptor
import ClusterQuery.Proofs.Record.Spelling
import ClusterQuery.Proofs.Text.Truncation
import ClusterQuery.Proofs.PeerClient
import ClusterQuery.Proofs.Json.Form
import ClusterQuery.Proofs.ControlPlane
import ClusterQuery.Proofs.Text.ByteOrder
import ClusterQuery.Proofs.Merge.LinearOrder
import ClusterQuery.Proofs.Json.NumberGrammar
import ClusterQuery.Json.Raw
import ClusterQuery.Proofs.Json.Grammar
import ClusterQuery.Proofs.Json.StringText
