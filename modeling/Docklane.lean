import Docklane.Concurrent.Program
import Docklane.Concurrent.RelyGuarantee
import Docklane.Concurrent.History
import Docklane.Concurrent.Answers
import Docklane.Text.UrlPath
import Docklane.Storage.Disk
import Docklane.Storage.Rows
import Docklane.Agent.Routes
import Docklane.Agent.Barrier
import Docklane.Agent.Classification
import Docklane.Agent.Process
import Docklane.Agent.Invariant
import Docklane.Agent.Persist
import Docklane.Agent.Sound
import Docklane.Agent.Drain
import Docklane.Agent.Durability
import Docklane.Control.Records
import Docklane.Control.Snapshots
import Docklane.Control.Tables
import Docklane.Control.Transactions
import Docklane.Control.Effects
import Docklane.Control.Outcomes
import Docklane.Control.Verification
import Docklane.Control.Histories
import Docklane.Control.Success
import Docklane.Control.Reconciliation
import Docklane.Control.EarlyVerdict
import Docklane.Control.Locks
import Docklane.Control.Dispatch
import Docklane.Control.ServiceMutations
import Docklane.Control.NodeMutations
import Docklane.Control.Deployments
import Docklane.Control.Maintenance
import Docklane.Control.Machine
import Docklane.Control.Protocol
import Docklane.Control.Statements
import Docklane.Control.Knowledge
import Docklane.Control.Intents
import Docklane.Control.Settling
import Docklane.Control.Admissions
import Docklane.Control.System
import Docklane.Control.Footprint
import Docklane.Control.Callbacks
import Docklane.Control.LockRules
import Docklane.Control.CallRules
import Docklane.Control.ServiceCalls
import Docklane.Control.NodeCalls
import Docklane.Control.DeployCalls
import Docklane.Control.RollbackCalls
import Docklane.Control.MaintenanceCalls
import Docklane.Control.Safety
import Docklane.Control.Requests
import Docklane.Control.Execution
import Docklane.Control.Sending
import Docklane.Control.Exclusion
import Docklane.Control.Closure
import Docklane.Control.Rollbacks
import Docklane.Control.Audit
import Docklane.Control.Agreement
import Docklane.Control.Retries
import Docklane.Control.Carried
import Docklane.Control.Ledger
import Docklane.Control.OperationIds
import Docklane.Concurrent.Alone
import Docklane.Concurrent.Linking
import Docklane.Control.Upkeep
import Docklane.Control.Acknowledgements
import Docklane.Control.Judgements
import Docklane.Control.Leases
import Docklane.Control.LeaseFencing
import Docklane.Control.ServiceVerdicts
import Docklane.Control.Managers
import Docklane.Concurrent.Running
import Docklane.Text.Unicode
import Docklane.Numbers.BoundedSums
import Docklane.Engine.Docker
import Docklane.Engine.Constraints
import Docklane.Engine.Capacity
import Docklane.Engine.Placement
import Docklane.Engine.Labels
import Docklane.Engine.Client
import Docklane.Engine.Reader
import Docklane.Engine.NodeMutator
import Docklane.Engine.Contract
import Docklane.Engine.Exchange
import Docklane.Engine.Resolution
import Docklane.Control.NodeVerdicts
import Docklane.Bootstrap.Tokens
import Docklane.Bootstrap.Service
import Docklane.Bootstrap.SingleUse
import Docklane.Engine.Mutator
import Docklane.Engine.Handlers
import Docklane.Fleet.Client
import Docklane.Fleet.Machine
import Docklane.Fleet.Binding
import Docklane.Control.LockSessions
import Docklane.Endpoints.Address
import Docklane.Endpoints.Confinement
import Docklane.Endpoints.Exposure
import Docklane.Endpoints.Health
import Docklane.Endpoints.Policy
import Docklane.Endpoints.Registry
import Docklane.Endpoints.Stability
import Docklane.Control.Remembering
import Docklane.Control.RollbackReplay
