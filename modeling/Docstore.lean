import Docstore.Calendar.Reading
import Docstore.Connection
import Docstore.Facade
import Docstore.Number.Reading
import Docstore.Store.Scripted
import Docstore.Proofs.Query.FilterAnchor
import Docstore.Proofs.Bulk.Identity
import Docstore.Proofs.Facade.Effects
import Docstore.Proofs.Facade.Translation
import Docstore.Proofs.Bulk.StoredEffect
import Docstore.Proofs.Json.Sameness
import Docstore.Proofs.Service.Interleaving
import Docstore.Proofs.Service.Submission
import Docstore.Proofs.Query.Outline
import Docstore.Proofs.Query.ValueIndependence
import Docstore.Proofs.Value.StoreForm
import Docstore.Proofs.Query.Numbering
import Docstore.Proofs.Fault.Kinds
import Docstore.Proofs.Fault.Origin
import Docstore.Proofs.Bulk.Tally
import Docstore.Proofs.Facade.BulkCount
import Docstore.Proofs.Facade.Malformed
import Docstore.Proofs.Facade.Pagination
import Docstore.Proofs.Facade.BulkLaw
import Docstore.Proofs.Facade.Placement
import Docstore.Proofs.Connection.Lifecycle
import Docstore.Proofs.Connection.Interleaving
import Docstore.Proofs.Query.WholeNumber
import Docstore.Proofs.Facade.PageArguments
import Docstore.Proofs.Number.DecimalText
import Docstore.Proofs.Text.QuotedText
import Docstore.Proofs.Calendar.ShownTime
import Docstore.Proofs.Value.Elementary
import Docstore.Proofs.Value.Enumeration
import Docstore.Proofs.Query.SetOperands
import Docstore.Proofs.Query.Refilling
import Docstore.Proofs.Bulk.Accounting
import Docstore.Proofs.Bulk.Counters
import Docstore.Proofs.Service.Classification
import Docstore.Proofs.Value.Comparison
import Docstore.Proofs.Bulk.Convergence
import Docstore.Proofs.Query.PlainValues
import Docstore.Proofs.Query.Interchange
import Docstore.Proofs.Query.Ledger
import Docstore.Proofs.Query.Suggestion
import Docstore.Proofs.Value.Reordering
import Docstore.Proofs.Value.ReadBack
