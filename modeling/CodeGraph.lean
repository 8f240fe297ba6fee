import CodeGraph.Main
import CodeGraph.Proofs.Catalog
import CodeGraph.Proofs.Edge.Order
import CodeGraph.Proofs.Session.Start
import CodeGraph.Proofs.Session.Edges
import CodeGraph.Proofs.Session.References
import CodeGraph.Proofs.Dependency.Aggregation
import CodeGraph.Proofs.Kind
import CodeGraph.Proofs.Dependency.Agreement
import CodeGraph.Proofs.Snapshot
import CodeGraph.Proofs.Storage.Edges
import CodeGraph.Proofs.Storage.Session
import CodeGraph.Proofs.Storage.Dependencies
import CodeGraph.Proofs.Storage.Output
import CodeGraph.Proofs.Session.Evaluation
import CodeGraph.Proofs.Storage.Answers
import CodeGraph.Proofs.Session.Filters
import CodeGraph.Proofs.Session.Directions
import CodeGraph.Proofs.Report.Rows
import CodeGraph.Proofs.Report.Calls
import CodeGraph.Proofs.Bytes
import CodeGraph.Proofs.Text.Delimited
import CodeGraph.Proofs.Report.ReadBack
import CodeGraph.Proofs.Except
import CodeGraph.Proofs.Binary
import CodeGraph.Proofs.Snapshot.Binary
import CodeGraph.Proofs.FileTree
import CodeGraph.Proofs.Snapshot.File
import CodeGraph.Proofs.Snapshot.Faults
import CodeGraph.Proofs.Session.Closing
import CodeGraph.Proofs.Session.Workplace
import CodeGraph.Proofs.Session.Names
import CodeGraph.Proofs.Listing
import CodeGraph.Proofs.Report.Writing
import CodeGraph.Proofs.Command
import CodeGraph.Proofs.Json.Text
import CodeGraph.Proofs.Json.Number
import CodeGraph.Proofs.Json.Value
import CodeGraph.Proofs.Snapshot.Json
import CodeGraph.Proofs.Snapshot.Reopening
import CodeGraph.Proofs.Ancestors
import CodeGraph.Proofs.Session.Unique
import CodeGraph.Proofs.Sink
import CodeGraph.Proofs.Truncation
import CodeGraph.Proofs.Printing
import CodeGraph.Proofs.Export
import CodeGraph.Proofs.KindFilter
import CodeGraph.Proofs.Text.Lowered
import CodeGraph.Proofs.KindFilter.ReadBack
import CodeGraph.Proofs.Membership.BreadthFirst
import CodeGraph.Proofs.Report.Attribution
import CodeGraph.Proofs.Position
import CodeGraph.Proofs.Token
import CodeGraph.Proofs.Session.Lookups
import CodeGraph.Proofs.TokenWalk
import CodeGraph.Proofs.Listing.Tokens
