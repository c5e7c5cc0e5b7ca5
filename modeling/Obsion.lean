import Obsion.Im.Attempts
import Obsion.Outbox.Calls
import Obsion.Ledger.Idempotent
import Obsion.Events.Sequence
import Obsion.Ingress.Authentic
import Obsion.Adapter.Honest
import Obsion.Harness.Document
import Obsion.Harness.Truthful
import Obsion.Knowledge.Sync.Receipts
import Obsion.Actions.Compensable
import Obsion.ModelGateway.Recoverable
import Obsion.Knowledge.Jsonml.Faults
import Obsion.Knowledge.Jsonml.Agree
import Obsion.Knowledge.Jsonml.Coverage
import Obsion.Knowledge.Publication.Gated
import Obsion.Automation.Firing
import Obsion.Harness.Attended
import Obsion.Threads.Forks
import Obsion.Inbox.Once
import Obsion.AppServer.Once
import Obsion.Streams.Gapless
import Obsion.Sandbox.Manifest
import Obsion.Automation.Tended
import Obsion.Capabilities.Shown
import Obsion.CodeIntelligence.Agreement
import Obsion.Capabilities.Consumed
import Obsion.ModelGateway.Accounted
import Obsion.AppServer.Answered
import Obsion.DataIntelligence.Explain
import Obsion.DataIntelligence.Masks
import Obsion.DataIntelligence.ReadOnly
import Obsion.Harness.Repair
import Obsion.Domain.Reload
import Obsion.Harness.Lineage
import Obsion.Security.Resolution
import Obsion.ModelGateway.Envelope
import Obsion.Harness.Drained
import Obsion.Im.Inbox
