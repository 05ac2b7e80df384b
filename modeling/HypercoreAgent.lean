import HypercoreAgent.PyDict
import HypercoreAgent.Session
import HypercoreAgent.Manager
import HypercoreAgent.Admission
import HypercoreAgent.Pipeline
import HypercoreAgent.Request
import HypercoreAgent.Stream
import HypercoreAgent.Sse
import HypercoreAgent.Tasks
import HypercoreAgent.Resume
import HypercoreAgent.StoreInvariants
import HypercoreAgent.Ledger
import HypercoreAgent.Server
import HypercoreAgent.Solo
import HypercoreAgent.Retries
import HypercoreAgent.Lifecycle
import HypercoreAgent.Accounting
import HypercoreAgent.Conversation
import HypercoreAgent.Timestamps
import HypercoreAgent.Health
import HypercoreAgent.Service
import HypercoreAgent.Schedule
import HypercoreAgent.Meminfo
import HypercoreAgent.LoadTest
import HypercoreAgent.ErrorJson
