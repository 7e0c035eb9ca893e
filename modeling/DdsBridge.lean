import DdsBridge.Program.Fixture
import DdsBridge.Proofs.Bridge.Binding
import DdsBridge.Proofs.Bridge.Contention
import DdsBridge.Proofs.Bridge.Dispatch
import DdsBridge.Proofs.Bridge.Endpoints
import DdsBridge.Proofs.Bridge.Handover
import DdsBridge.Proofs.Bridge.Lookups
import DdsBridge.Proofs.Bridge.Resolution
import DdsBridge.Proofs.Bridge.RoundTrip
import DdsBridge.Proofs.Bridge.Settings
import DdsBridge.Proofs.Bridge.Waiting
import DdsBridge.Proofs.Bridge.Notifications
import DdsBridge.Proofs.Bridge.Withdrawal
import DdsBridge.Proofs.Provider.Attachment
import DdsBridge.Proofs.Provider.Cleanup
import DdsBridge.Proofs.Provider.Coherence
import DdsBridge.Proofs.Provider.Delivery
import DdsBridge.Proofs.Provider.Derelict
import DdsBridge.Proofs.Provider.Fanout
import DdsBridge.Proofs.Provider.Isolation
import DdsBridge.Proofs.Provider.Issuance
import DdsBridge.Proofs.Provider.Order
import DdsBridge.Proofs.Provider.Refusal
import DdsBridge.Proofs.Provider.Replay
import DdsBridge.Proofs.Provider.Wakeups
import DdsBridge.Proofs.Session.Holds
import DdsBridge.Proofs.Bridge.Stale
import DdsBridge.Proofs.Bridge.Numbers
import DdsBridge.Proofs.Bridge.InPlace
import DdsBridge.Proofs.Duration
