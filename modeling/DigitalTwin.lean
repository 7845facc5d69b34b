import DigitalTwin.Hub.Run
import DigitalTwin.LockTable
import DigitalTwin.Log.Session
import DigitalTwin.Main
import DigitalTwin.Proofs.Atomicity
import DigitalTwin.Proofs.FaultFree
import DigitalTwin.Proofs.History
import DigitalTwin.Proofs.Indexed
import DigitalTwin.Proofs.Ledger
import DigitalTwin.Proofs.TwinStore
import DigitalTwin.Startup.Settings
import DigitalTwin.Uuid
import DigitalTwin.Proofs.Refinement
import DigitalTwin.Proofs.Subscriptions
import DigitalTwin.Proofs.Provenance
import DigitalTwin.Proofs.Restoration
import DigitalTwin.Proofs.Notification
import DigitalTwin.Proofs.Ownership
import DigitalTwin.Proofs.Revisions
import DigitalTwin.Proofs.Readings
import DigitalTwin.Proofs.RouteScan
import DigitalTwin.Proofs.Delivery
import DigitalTwin.Proofs.FairQueue
import DigitalTwin.Proofs.Independence
import DigitalTwin.Proofs.BrokerQueue
import DigitalTwin.Proofs.TwinList
import DigitalTwin.Proofs.Measurements
import DigitalTwin.Proofs.RoundTrip
import DigitalTwin.Proofs.RouteChanges
import DigitalTwin.Proofs.Alignment
import DigitalTwin.Proofs.Saving
import DigitalTwin.Proofs.Batches
import DigitalTwin.Proofs.Interleaving
import DigitalTwin.Proofs.TokenList
import DigitalTwin.Proofs.Paging
import DigitalTwin.Proofs.LogSession
import DigitalTwin.Proofs.Removal
