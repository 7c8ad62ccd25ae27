import AccessTrace.Command.Workspace
import AccessTrace.Main
import AccessTrace.Proofs.Store.Window
import AccessTrace.Proofs.Ingest.Reading
import AccessTrace.Proofs.Session.Extension
import AccessTrace.Proofs.Session.Horizon
import AccessTrace.Proofs.Store.Growth
import AccessTrace.Proofs.Session.Answers
import AccessTrace.Proofs.Store.Coherence
import AccessTrace.Proofs.Session.Splitting
import AccessTrace.Proofs.Session.Interruption
import AccessTrace.Proofs.Trace.Grammar
import AccessTrace.Proofs.Numeral.Literal
import AccessTrace.Proofs.Store.Lifecycle
import AccessTrace.Proofs.Snapshot.Inverse
import AccessTrace.Proofs.Snapshot.Truncation
import AccessTrace.Proofs.Command.Database
import AccessTrace.Proofs.Store.Bounds
import AccessTrace.Proofs.Command.Stepping
import AccessTrace.Proofs.Session.Histograms
import AccessTrace.Proofs.Histogram.Ends
import AccessTrace.Proofs.Chart
import AccessTrace.Proofs.Ingest.Ledger
import AccessTrace.Proofs.Ingest.Limit
import AccessTrace.Proofs.Session.Repetition
