import KvBridge.Config
import KvBridge.Store.Driver
import KvBridge.Store.Postgres.Url

/-!
# The store in a database

A store keeps one row for each key in a table of a database. Rows that have expired are passed over
when they are read, and overwritten by later writes. The table is made when the client connects.

* `Postgres.checkTable`: refusing names that may not stand in a statement;
* `Postgres.lastWrites`: the pairs of a batch without those that a later one overwrites;
* `Postgres.realign`: the values of a batch of keys from rows in any order;
* `Postgres.call`: what each command asks of the server.
-/

namespace KvBridge.Postgres

/-- A client: its settings, whether it is connected, and the server. -/
structure Client (β : Type) where
  config : PostgresConfig
  isConnected : Bool
  server : β

/-- Refuses names that may not stand in a statement. -/
def checkTable (config : PostgresConfig) : Except Cause Unit :=
  if isTableName config.table then .ok ()
  else
    .error (.text ("invalid table name " ++ Text.quoted config.table ++
      ": use letters, digits and underscores"))

def notConnected : Cause := .text "postgres driver is not connected"

/-- The pairs of a batch without those that a later pair of the same key overwrites. `seen` are the
keys of pairs further back. -/
def lastWritesFrom (seen : List Bytes) : List (Bytes × Bytes) → List (Bytes × Bytes)
  | [] => []
  | p :: ps =>
    if seen.contains p.1 then lastWritesFrom seen ps
    else p :: lastWritesFrom (p.1 :: seen) ps

/-- The last pair of each key, the last of all first. -/
def lastWrites (pairs : List (Bytes × Bytes)) : List (Bytes × Bytes) :=
  lastWritesFrom [] pairs.reverse

/-- The value of the last row of a key. -/
def rowValue? (rows : List (List Bytes)) (key : Bytes) : Option Bytes :=
  rows.reverse.findSome? fun
    | [k, v] => if k = key then some v else none
    | _ => none

/-- The values of keys, in their order. -/
def realign (keys : List Bytes) (rows : List (List Bytes)) : List (Option Bytes) :=
  keys.map (rowValue? rows)

variable {β : Type} (server : Server β)

/-- The programs of a client. -/
abbrev ClientCall (β : Type) := ExceptT Cause (Timed Event (Clocked (Client β)))

/-- The reading of the clock, as the database counts. -/
def now : ClientCall β Int := ExceptT.lift (Timed.look fun s => dbMillis s.now)

/-- The deadline of a value that is written now. -/
def deadline (ttl : Option Duration) : ClientCall β (Option Int) :=
  ExceptT.lift (Timed.look fun s => ttl.map fun ttl => dbMillis (s.now.expiresAt ttl))

/-- Asks the server, connected or not. -/
def send (q : Query) : ClientCall β Answer :=
  ExceptT.mk do
    let statement ← Timed.look fun s => q.statement s.store.config.table
    Timed.tell (.statement statement)
    let answer ← Timed.act fun s =>
      let (a, b) := server.execute q s.store.server
      (a, { s with store := { s.store with server := b } })
    match answer with
    | .failed message => return .error (.text ("error returned from database: " ++ message))
    | a => return .ok a

/-- Requires that the client be connected. -/
def connected : ClientCall β Unit :=
  ExceptT.mk (Timed.look fun s => if s.store.isConnected then .ok () else .error notConnected)

/-- Asks the server, if the client is connected. -/
def ask (q : Query) : ClientCall β Answer := do
  connected
  send server q

/-- Signs in, and makes the table. -/
def connect : ClientCall β Unit := do
  let s ← ExceptT.lift (Timed.look fun s => s.store)
  if s.isConnected then return
  match Address.parse? s.config.url with
  | none => throw (.context "invalid postgres connection url" (.text "malformed address"))
  | some address =>
    let login := address.login s.config.username s.config.password
    let admitted ← ExceptT.lift (Timed.act fun s =>
      let (ok, b) := server.signIn login s.store.server
      (ok, { s with store := { s.store with server := b } }))
    unless admitted do
      throw (.context "failed to connect to postgres" (.text "no connection"))
    ExceptT.lift (Timed.tell
      (.login (login.user.getD "") (login.password.getD "") login.database))
    let _ ← send server .createTable
    ExceptT.lift (notice .info "postgres pool established")
    ExceptT.lift (Timed.change fun s => { s with store := { s.store with isConnected := true } })

/-- Signs out. -/
def close : ClientCall β Unit :=
  ExceptT.lift (Timed.change fun s => { s with store := { s.store with isConnected := false } })

/-- Reads the live value of a key. -/
def get (key : Bytes) : ClientCall β (Option Bytes) := do
  let answer ← ask server (.select key (← now))
  return answer.toRows.head?.bind List.head?

/-- Writes a value. -/
def upsert (key value : Bytes) (ttl : Option Duration) : ClientCall β Unit := do
  let _ ← ask server (.upsert key value (← deadline ttl))

/-- Writes a value if the live value of the key is the expected one. When it is not, the value is
read anew, and may be a newer one. -/
def compareAndSwap (key : Bytes) (expected : Option Bytes) (new : Bytes)
    (ttl : Option Duration) : ClientCall β Swap := do
  connected
  let now ← now
  let expiresAt ← deadline ttl
  let answer ← ask server (match expected with
    | none => .insertUnlessLive key new expiresAt now
    | some old => .updateIfLive key new expiresAt old now)
  if answer.count = 1 then return ⟨expected, true⟩
  return ⟨← get server key, false⟩

/-- Reads several values at once. -/
def batchGet (keys : List Bytes) : ClientCall β (List (Option Bytes)) := do
  if keys.isEmpty then return []
  let answer ← ask server (.selectMany keys (← now))
  return realign keys answer.toRows

/-- Writes several values at once. -/
def batchPut (pairs : List (Bytes × Bytes)) : ClientCall β Unit := do
  if pairs.isEmpty then return
  let writes := lastWrites pairs
  let _ ← ask server (.upsertMany (writes.map Prod.fst) (writes.map Prod.snd))

/-- Deletes several keys at once. -/
def batchDelete (keys : List Bytes) : ClientCall β Unit := do
  if keys.isEmpty then return
  let _ ← ask server (.deleteMany keys)

/-- What a command asks of the server. -/
def call : (c : Command) → ClientCall β c.Reply
  | .connect => connect server
  | .ready => do let _ ← ask server .ping
  | .close => close
  | .get key => get server key
  | .put key value => upsert server key value none
  | .putWithTtl key value ttl => upsert server key value (some ttl)
  | .compareAndSwap key expected new ttl => compareAndSwap server key expected new ttl
  | .delete key => do let _ ← ask server (.delete key)
  | .batchGet keys => batchGet server keys
  | .batchPut pairs => batchPut server pairs
  | .batchDelete keys => batchDelete server keys

/-- The driver. -/
def driver : Driver (Clocked (Client β)) where
  name := "postgres"
  atomicSwap := true
  call c := (call server c).run

end KvBridge.Postgres
