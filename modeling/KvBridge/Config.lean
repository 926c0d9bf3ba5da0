import KvBridge.Json.Shape
import KvBridge.Time.Duration

/-!
# Settings

The settings of each part are a record, and each record has a shape in which a JSON text of it is
read. Names that a record does not know are passed over.

* `ClientConfig`: the deadline of a call and the wait for a backend to become ready;
* `CacheConfig`, `ProcessorConfig`: a cache and a batch processor;
* `EmbeddedConfig`, `PostgresConfig`: the stores;
* `StreamConfig`: a channel of the ingestion service;
* `WriteMode`: how the service takes rows.
-/

namespace KvBridge

open Json (Record Field Shape)

/-! ## Connections -/

/-- A bounded wait: a number of probes and the pause between two of them. -/
structure ReadinessPolicy where
  attempts : Nat := 5
  intervalMs : Nat := 1000
deriving DecidableEq, Repr

namespace ReadinessPolicy

/-- There is at least one probe. -/
def probes (p : ReadinessPolicy) : Nat := max p.attempts 1

def interval (p : ReadinessPolicy) : Duration := .ofMillis p.intervalMs

def record : Record ReadinessPolicy where
  name := "ReadinessPolicy"
  blank := {}
  fields := [
    .defaulted "attempts" Shape.whole32 fun n p => { p with attempts := n },
    .defaulted "interval_ms" Shape.whole64 fun n p => { p with intervalMs := n }]

end ReadinessPolicy

/-- The settings of every connection. -/
structure ClientConfig where
  requestTimeoutMs : Nat := 15000
  readiness : ReadinessPolicy := {}
deriving DecidableEq, Repr

namespace ClientConfig

/-- The deadline of a call whose caller sets none. -/
def requestTimeout (c : ClientConfig) : Duration := .ofMillis c.requestTimeoutMs

def record : Record ClientConfig where
  name := "ClientConfig"
  blank := {}
  fields := [
    .defaulted "request_timeout_ms" Shape.whole64 fun n c => { c with requestTimeoutMs := n },
    .defaulted "readiness" ReadinessPolicy.record.shape fun p c => { c with readiness := p }]

end ClientConfig

/-! ## Caches and processors -/

/-- The settings of a cache. -/
structure CacheConfig where
  defaultTtlMs : Option Nat := none
deriving DecidableEq, Repr

namespace CacheConfig

/-- How long a value lives when the caller does not say; for ever if none. -/
def defaultTtl (c : CacheConfig) : Option Duration := c.defaultTtlMs.map .ofMillis

def record : Record CacheConfig where
  name := "CacheConfig"
  blank := {}
  fields := [
    .defaulted "default_ttl_ms" (Shape.optional Shape.whole64) fun ttl _ => ⟨ttl⟩]

end CacheConfig

/-- The settings of a batch processor: the name of its operation. -/
structure ProcessorConfig where
  operation : String := "get"
deriving DecidableEq, Repr

namespace ProcessorConfig

def record : Record ProcessorConfig where
  name := "ProcessorConfig"
  blank := {}
  fields := [.defaulted "operation" Shape.text fun s _ => ⟨s⟩]

end ProcessorConfig

/-! ## Stores -/

/-- The settings of an embedded store: its file. -/
structure EmbeddedConfig where
  path : String
deriving DecidableEq, Repr

namespace EmbeddedConfig

def record : Record EmbeddedConfig where
  name := "RedbConfig"
  blank := ⟨""⟩
  fields := [.needed "path" Shape.path fun s _ => ⟨s⟩]

end EmbeddedConfig

/-- The settings of a PostgreSQL store. A user or password that is set wins over the address. -/
structure PostgresConfig where
  url : String
  table : String := "keyway_kv"
  username : Option String := none
  password : Option String := none
  maxConnections : Nat := 8
deriving DecidableEq, Repr

namespace PostgresConfig

def record : Record PostgresConfig where
  name := "PostgresConfig"
  blank := ⟨"", "keyway_kv", none, none, 8⟩
  fields := [
    .needed "url" Shape.text fun s c => { c with url := s },
    .defaulted "table" Shape.text fun s c => { c with table := s },
    .defaulted "username" (Shape.optional Shape.text) fun s c => { c with username := s },
    .defaulted "password" (Shape.optional Shape.text) fun s c => { c with password := s },
    .defaulted "max_connections" Shape.whole32 fun n c => { c with maxConnections := n }]

end PostgresConfig

/-! ## The ingestion service -/

/-- The settings of a channel. -/
structure StreamConfig where
  account : String := ""
  region : Option String := none
  cloud : Option String := none
  user : String := ""
  role : String := ""
  database : String := ""
  schema : String := ""
  table : String := ""
  channel : String := ""
  privateKeyFile : String := ""
  privateKeyPass : Option String := none
  endpoint : Option String := none
  requestTimeoutMs : Nat := 30000
deriving DecidableEq, Repr

namespace StreamConfig

/-- The account with its region and its cloud, as far as they are set. -/
def accountIdentifier (c : StreamConfig) : String :=
  ".".intercalate (c.account :: [c.region, c.cloud].filterMap id)

/-- The address of the service. -/
def baseUrl (c : StreamConfig) : String :=
  c.endpoint.getD ("https://" ++ c.accountIdentifier ++ ".snowflakecomputing.com")

def requestTimeout (c : StreamConfig) : Duration := .ofMillis c.requestTimeoutMs

def record : Record StreamConfig where
  name := "StreamConfig"
  blank := {}
  fields := [
    .needed "account" Shape.text fun s c => { c with account := s },
    .defaulted "region" (Shape.optional Shape.text) fun s c => { c with region := s },
    .defaulted "cloud" (Shape.optional Shape.text) fun s c => { c with cloud := s },
    .needed "user" Shape.text fun s c => { c with user := s },
    .needed "role" Shape.text fun s c => { c with role := s },
    .needed "database" Shape.text fun s c => { c with database := s },
    .needed "schema" Shape.text fun s c => { c with schema := s },
    .needed "table" Shape.text fun s c => { c with table := s },
    .needed "channel" Shape.text fun s c => { c with channel := s },
    .needed "private_key_file" Shape.path fun s c => { c with privateKeyFile := s },
    .defaulted "private_key_pass" (Shape.optional Shape.text)
      fun s c => { c with privateKeyPass := s },
    .defaulted "endpoint" (Shape.optional Shape.text) fun s c => { c with endpoint := s },
    .defaulted "request_timeout_ms" Shape.whole64 fun n c => { c with requestTimeoutMs := n }]

end StreamConfig

/-- How the service takes rows. -/
inductive WriteMode
  | cloudStorage
  | restApi
deriving DecidableEq, Repr

namespace WriteMode

def wireName : WriteMode → String
  | .cloudStorage => "CLOUD_STORAGE"
  | .restApi => "REST_API"

def toJson (m : WriteMode) : Json := .text m.wireName

def shape : Shape WriteMode :=
  Shape.variant ([cloudStorage, restApi].map fun m => (m.wireName, m))

end WriteMode

end KvBridge
