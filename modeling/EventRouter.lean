import EventRouter.Inspection.Directory
import EventRouter.Main
import EventRouter.Session.Basic
import EventRouter.Proofs.Key.Codec
import EventRouter.Proofs.Dict
import EventRouter.Proofs.Snapshot.Validity
import EventRouter.Proofs.Store.Change
import EventRouter.Proofs.Dispatch.Stage
import EventRouter.Proofs.Session.Run
import EventRouter.Proofs.Snapshot.Listing
import EventRouter.Proofs.Store.Registry
import EventRouter.Proofs.Key.Order
import EventRouter.Proofs.Dispatch.Filter
import EventRouter.Proofs.Filter
import EventRouter.Proofs.Inspection.Report
import EventRouter.Proofs.Key.Distinct
import EventRouter.Proofs.Session.Failure
import EventRouter.Proofs.Dispatch.Gate
import EventRouter.Proofs.Text.Numeral
import EventRouter.Proofs.Json.Literal
import EventRouter.Proofs.Json.Lexer
import EventRouter.Proofs.Doc.Reader
import EventRouter.Proofs.Instant.Calendar
import EventRouter.Proofs.Instant.Parser
import EventRouter.Proofs.Json.Sorted
import EventRouter.Proofs.Decode.Record
import EventRouter.Proofs.Event.Document
import EventRouter.Proofs.Event.RoundTrip
import EventRouter.Proofs.Store.Edit
import EventRouter.Proofs.Store.Interleaving
import EventRouter.Proofs.Dispatch.Chain
import EventRouter.Proofs.Json.Order
import EventRouter.Proofs.Session.Version
import EventRouter.Proofs.Decode.Inverse
import EventRouter.Proofs.Snapshot.Document
import EventRouter.Proofs.Session.Restore
import EventRouter.Proofs.Dispatch.Propagation
import EventRouter.Proofs.Session.Places
import EventRouter.Proofs.Json.Tokens
import EventRouter.Proofs.Json5.Lexer
import EventRouter.Proofs.Snapshot.Loading
import EventRouter.Proofs.Store.Journal
import EventRouter.Proofs.Session.Journal
import EventRouter.Proofs.Store.Deletion
import EventRouter.Proofs.Store.NetEffect
import EventRouter.Proofs.Snapshot.Visit
import EventRouter.Proofs.Session.Enumeration
import EventRouter.Proofs.Snapshot.Candidates
import EventRouter.Proofs.Dispatch.Visibility
import EventRouter.Proofs.Decode.Members
import EventRouter.Proofs.Instant.Text
import EventRouter.Proofs.Event.Time
import EventRouter.Proofs.Event.Members
import EventRouter.Proofs.Trace.Header
import EventRouter.Proofs.Trace.Extraction
import EventRouter.Proofs.Key.Refusal
import EventRouter.Proofs.Session.Identity
import EventRouter.Proofs.Store.TargetIdentity
import EventRouter.Proofs.Dispatch.Record
import EventRouter.Proofs.Decode.Focus
import EventRouter.Proofs.Snapshot.Spot
