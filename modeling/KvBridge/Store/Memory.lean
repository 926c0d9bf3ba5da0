import KvBridge.Store.Driver
import KvBridge.Store.Table

/-!
# The store in memory

Values live in a table together with their deadlines. An entry whose deadline has come reads as
absent, and is taken out when it is read. The data outlive the client: closing only refuses
further commands until the store is opened again.

* `Entry.isLive`: an entry is live until its deadline comes;
* `Memory.load`, `Memory.store`, `Memory.swap`: reading, writing and writing on condition;
* `Memory.exec`: what each command does.
-/

namespace KvBridge

/-- A value and the reading from which on it has expired; it never does if there is none. -/
structure Entry where
  value : Bytes
  expiresAt : Option Reading
deriving DecidableEq, Repr

namespace Entry

/-- Whether the deadline is still to come. -/
def isLive (e : Entry) (now : Reading) : Bool := e.expiresAt.all (now < ·)

/-- A value that is written now. -/
def written (value : Bytes) (ttl : Option Duration) (now : Reading) : Entry :=
  ⟨value, ttl.map now.expiresAt⟩

end Entry

/-- The store in memory. -/
structure Memory where
  entries : Table Bytes Entry
  isOpen : Bool

namespace Memory

def empty : Memory := ⟨.empty, false⟩

/-- The live value of a key. -/
def live? (m : Memory) (key : Bytes) (now : Reading) : Option Bytes :=
  match m.entries.find? key with
  | some e => if e.isLive now then some e.value else none
  | none => none

/-- The number of live values. -/
def size (m : Memory) (now : Reading) : Nat := m.entries.count (·.isLive now)

/-- Reads the value of a key, and takes out an entry that has expired. -/
def load (m : Memory) (key : Bytes) (now : Reading) : Option Bytes × Memory :=
  match m.entries.find? key with
  | none => (none, m)
  | some e =>
    if e.isLive now then (some e.value, m)
    else (none, { m with entries := m.entries.erase key })

/-- Reads the values of several keys, one after the other. -/
def loadAll (m : Memory) (now : Reading) : List Bytes → List (Option Bytes) × Memory
  | [] => ([], m)
  | key :: keys =>
    let (v, m) := m.load key now
    let (vs, m) := m.loadAll now keys
    (v :: vs, m)

/-- Writes a value. -/
def store (m : Memory) (key value : Bytes) (ttl : Option Duration) (now : Reading) : Memory :=
  { m with entries := m.entries.insert key (.written value ttl now) }

/-- Writes a value if the live value of the key is the expected one. An entry that has expired
counts as none, and stays when the write does not happen. -/
def swap (m : Memory) (key : Bytes) (expected : Option Bytes) (new : Bytes)
    (ttl : Option Duration) (now : Reading) : Swap × Memory :=
  let previous := m.live? key now
  if previous = expected then (⟨previous, true⟩, m.store key new ttl now)
  else (⟨previous, false⟩, m)

/-- Takes a key out. -/
def erase (m : Memory) (key : Bytes) : Memory := { m with entries := m.entries.erase key }

/-- Why a store that is closed refuses a command. -/
def closed : Cause := .text "memory driver is closed"

/-- What a command on data does to an open store. -/
def serve (c : Command) (now : Reading) (m : Memory) : c.Reply × Memory :=
  match c with
  | .connect | .ready | .close => ((), m)
  | .get key => m.load key now
  | .put key value => ((), m.store key value none now)
  | .putWithTtl key value ttl => ((), m.store key value (some ttl) now)
  | .compareAndSwap key expected new ttl => m.swap key expected new ttl now
  | .delete key => ((), m.erase key)
  | .batchGet keys => m.loadAll now keys
  | .batchPut pairs => ((), pairs.foldl (fun m p => m.store p.1 p.2 none now) m)
  | .batchDelete keys => ((), keys.foldl erase m)

/-- What a command does. -/
def exec (c : Command) (now : Reading) (m : Memory) : Except Cause c.Reply × Memory :=
  match c with
  | .connect => (.ok (), { m with isOpen := true })
  | .close => (.ok (), { m with isOpen := false })
  | c =>
    if m.isOpen then
      let (r, m) := m.serve c now
      (.ok r, m)
    else (.error closed, m)

/-- The driver. It may be told not to promise that conditional writes are atomic. -/
def driver (atomicSwap : Bool) : Driver (Clocked Memory) :=
  Clocked.driver "memory" atomicSwap exec

end Memory

end KvBridge
