import TableQuery.Model.Schema
import TableQuery.Proofs.Condition.Trivial
import TableQuery.Proofs.FetchParams.RoundTrip
import TableQuery.Proofs.FieldMapping.Handover
import TableQuery.Proofs.FieldMapping.History
import TableQuery.Proofs.FieldMapping.Indexes
import TableQuery.Proofs.Formula.Columns
import TableQuery.Proofs.Formula.Composition
import TableQuery.Proofs.Formula.Denotation
import TableQuery.Proofs.Json.ReadBack
import TableQuery.Proofs.Query.Fault
import TableQuery.Proofs.Query.Fetching
import TableQuery.Proofs.Query.Refinement
import TableQuery.Proofs.Query.Renaming
import TableQuery.Proofs.Scope.Application
import TableQuery.Proofs.Scope.Inlining
import TableQuery.Proofs.Store.Paging
import TableQuery.Proofs.Workspace.AllOrNothing
import TableQuery.Proofs.Workspace.Cache
import TableQuery.Proofs.Workspace.CallLog
import TableQuery.Proofs.Workspace.Chain
import TableQuery.Proofs.Workspace.Isolation
import TableQuery.Proofs.Workspace.LastPage
import TableQuery.Proofs.Workspace.Restriction
import TableQuery.Proofs.Formula.Escaping
import TableQuery.Proofs.Workspace.FirstPage
import TableQuery.Proofs.Workspace.SingleRecord
import TableQuery.Proofs.Double
import TableQuery.Proofs.Workspace.RequiredRecord
import TableQuery.Proofs.Record.Attributes
import TableQuery.Proofs.Record.Reading
import TableQuery.Proofs.Record.Writing
import TableQuery.Proofs.Record.WritingBack
import TableQuery.Proofs.Value.Printing
