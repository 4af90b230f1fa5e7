import MyCogni.Mailbox.Persistent
import MyCogni.Mailbox.Deliverable
import MyCogni.Mailbox.Collection
import MyCogni.Mailbox.Boundary
import MyCogni.Mailbox.Sealed
import MyCogni.Mailbox.Course
import MyCogni.Mailbox.Refinement
import MyCogni.Auth.Epoch
import MyCogni.Auth.Lockout
import MyCogni.Auth.Chain
import MyCogni.Auth.Clock
import MyCogni.Auth.WayBack
import MyCogni.Auth.Custody
import MyCogni.Auth.Pinned
import MyCogni.Auth.Retention
import MyCogni.Auth.Guessing
import MyCogni.Auth.Composition
import MyCogni.Ceremonies.AuthSpike
import MyCogni.Ceremonies.Outcomes
import MyCogni.Ceremonies.Leaving
import MyCogni.Ceremonies.Handoff
import MyCogni.Ceremonies.Served
import MyCogni.Persistence.Lease
import MyCogni.Persistence.Runtime
import MyCogni.Persistence.Mounts
import MyCogni.Persistence.Exclusive
import MyCogni.Web.SignOut
import MyCogni.Keys.Reconciliation
import MyCogni.Keys.Binding
import MyCogni.Keys.Tables
import MyCogni.Keys.Latches
import MyCogni.Connector.Origin
import MyCogni.Preview.Restart
import MyCogni.Auth.Transcript
import MyCogni.Terminal.Disclosure
import MyCogni.Terminal.Runs
import MyCogni.Terminal.SecretInput
import MyCogni.Governance.WorkPackages
import MyCogni.Simulator.Deliveries
