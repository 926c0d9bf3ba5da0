import KvBridge.Cache
import KvBridge.Proofs.Abstention
import KvBridge.Proofs.Cache.Contention
import KvBridge.Proofs.Cache.Failing
import KvBridge.Proofs.Cache.Reference
import KvBridge.Proofs.Cancellation
import KvBridge.Proofs.Connection.Budget
import KvBridge.Proofs.Connection.Exclusion
import KvBridge.Proofs.Connection.Readiness
import KvBridge.Proofs.Connection.Tracking
import KvBridge.Proofs.Processor.Agreement
import KvBridge.Proofs.Processor.Items
import KvBridge.Proofs.Processor.Storing
import KvBridge.Proofs.Store.Interchange
import KvBridge.Proofs.Store.Postgres.Refinement
import KvBridge.Proofs.Store.Postgres.Texts
import KvBridge.Proofs.Stream.Acknowledgement
import KvBridge.Proofs.Timed.Earliest
import KvBridge.Store.Embedded
import KvBridge.Store.Memory
import KvBridge.Store.Postgres.Driver
import KvBridge.Store.Scripted
import KvBridge.Stream.Http
import KvBridge.Stream.Writer
import KvBridge.Text.UpperCase
import KvBridge.Timed.Pool
import KvBridge.Writer
import KvBridge.Proofs.Store.Postgres.Transit
import KvBridge.Proofs.Store.Absence
import KvBridge.Proofs.Text.Decoding
import KvBridge.Proofs.Json.Telling
import KvBridge.Proofs.Stream.Tolerance
import KvBridge.Proofs.Store.Codec
