import Cadence.Folder
import Cadence.Incident.Kind
import Cadence.Logging.Directive
import Cadence.Logging.Filter
import Cadence.Logging.Line
import Cadence.Logging.Setup
import Cadence.Origin.Reader
import Cadence.Ownership
import Cadence.Proofs.Agenda.Accounts
import Cadence.Proofs.Agenda.Clock
import Cadence.Proofs.Agenda.Order
import Cadence.Proofs.Agenda.Piecewise
import Cadence.Proofs.Agenda.Termination
import Cadence.Proofs.Broadcast.Closing
import Cadence.Proofs.Broadcast.Custody
import Cadence.Proofs.Broadcast.Draws
import Cadence.Proofs.Broadcast.Isolation
import Cadence.Proofs.Broadcast.Recreation
import Cadence.Proofs.Broadcast.Reordering
import Cadence.Proofs.Broadcast.Roll
import Cadence.Proofs.Broadcast.Snapshot
import Cadence.Proofs.Broadcast.Spacing
import Cadence.Proofs.Channel.Stream
import Cadence.Proofs.Executor.Agreement
import Cadence.Proofs.Executor.Books
import Cadence.Proofs.Incident.Exchange
import Cadence.Proofs.Incident.Interleaving
import Cadence.Proofs.Incident.Lineage
import Cadence.Proofs.Pause.Alternation
import Cadence.Proofs.Pause.Departure
import Cadence.Proofs.Pause.Grace
import Cadence.Proofs.Pause.Refinement
import Cadence.Proofs.Settings.Layers
import Cadence.Proofs.Settings.WriteBack
import Cadence.Proofs.Timer.Sharing
import Cadence.Proofs.Watching.Lifetime
import Cadence.Rehearsal.Broadcasting
import Cadence.Rehearsal.Executing
import Cadence.Rehearsal.Filing
import Cadence.Rehearsal.Pausing
import Cadence.Rehearsal.Sequencing
import Cadence.Settings.Source
