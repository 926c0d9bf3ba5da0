import KvBridge.Store.Driver
import KvBridge.Store.Record
import KvBridge.Store.Table
import KvBridge.Text.Cut

/-!
# The embedded store

An embedded store keeps its values, each with a header, in a file. A file is open in one place at
a time; what was written stays in it. Several writes of one command are made together.

Work on a file blocks, and is taken to end at once. So no deadline cuts a command short here, not
even one of no length, with which a command that has to wait for its file would be answered that
time is up.

* `Disk`: the files;
* `Embedded.exec`: what each command does.
-/

namespace KvBridge

/-- The values of a file under their keys. -/
abbrev RawTable := Table Bytes Bytes

/-- A file: whether it is open somewhere, and its values unless it is no store. -/
structure StoreFile where
  isOpen : Bool
  content : Option RawTable

/-- The files of a directory under their names. -/
abbrev Disk := Table String StoreFile

namespace Disk

/-- The steps of a path. -/
def steps (path : String) : List String := (Text.splitAll '/' path.toList).map String.ofList

/-- The name of the file at the end of a path. -/
def name (path : String) : String := (steps path).getLastD ""

/-- Whether a path leads to a file of the directory: it starts there, does not leave it, and ends
with the name of a file. Neither the name nor the path is too long. -/
def isWithin (path : String) : Bool :=
  let steps := steps path
  !(["", ".", ".."].contains (name path)) && (name path).utf8ByteSize ≤ 255 &&
    path.utf8ByteSize < 4096 && !path.toList.contains '\x00' &&
    !path.toList.head?.any (· == '/') && steps.dropLast.all fun step => step == "" || step == "."

/-- The file at a path, which is made when there is none. None when there can be no such file, when
it is open already, or when it is no store. -/
def opening? (d : Disk) (path : String) : Option RawTable :=
  if isWithin path then
    match d.find? (name path) with
    | none => some .empty
    | some f => if f.isOpen then none else f.content
  else none

/-- Keeps a file at a path. -/
def keep (d : Disk) (path : String) (f : StoreFile) : Disk := d.insert (name path) f

/-- Puts bytes into a file. Only an empty file is, or rather becomes, a store. -/
def place (d : Disk) (path : String) (bytes : Bytes) : Disk :=
  d.keep path ⟨false, if bytes.isEmpty then some .empty else none⟩

/-- Reads a value with its header. -/
def rawGet? (d : Disk) (path : String) (key : Bytes) : Option (Option Bytes) :=
  (d.opening? path).map (·.find? key)

/-- Writes a value with its header. -/
def rawPut? (d : Disk) (path : String) (key value : Bytes) : Option Disk :=
  (d.opening? path).map fun t => d.keep path ⟨false, some (t.insert key value)⟩

end Disk

/-- An embedded store: the path of its file and whether the file is open here. -/
structure Embedded where
  path : String
  isOpen : Bool

/-- A store and the directory in which its file lies. -/
structure OnDisk where
  disk : Disk
  store : Embedded

namespace Embedded

def notConnected : Cause := .text "redb driver is not connected"

/-- Why a file cannot be opened. -/
def cannotOpen (path : String) : Cause :=
  .context ("failed to open redb database at " ++ path) (.text "cannot open the file")

/-- Reads the live value of a key. -/
def read (t : RawTable) (now : Reading) (key : Bytes) : Except Cause (Option Bytes) :=
  match t.find? key with
  | none => .ok none
  | some raw => Record.live raw now

/-- Writes a value. -/
def write (t : RawTable) (key value : Bytes) (expiresAt : Option Reading) : RawTable :=
  t.insert key (Record.encode value expiresAt)

/-- Writes a value if the live value of the key is the expected one. -/
def swap (t : RawTable) (now : Reading) (key : Bytes) (expected : Option Bytes) (new : Bytes)
    (ttl : Option Duration) : Except Cause Swap × RawTable :=
  match read t now key with
  | .error cause => (.error cause, t)
  | .ok previous =>
    if previous = expected then
      (.ok ⟨previous, true⟩, write t key new (ttl.map now.expiresAt))
    else (.ok ⟨previous, false⟩, t)

/-- What a command on data does to an open file. -/
def serve (c : Command) (now : Reading) (t : RawTable) : Except Cause c.Reply × RawTable :=
  match c with
  | .connect | .ready | .close => (.ok (), t)
  | .get key => (read t now key, t)
  | .put key value => (.ok (), write t key value none)
  | .putWithTtl key value ttl => (.ok (), write t key value (some (now.expiresAt ttl)))
  | .compareAndSwap key expected new ttl => swap t now key expected new ttl
  | .delete key => (.ok (), t.erase key)
  | .batchGet keys => (keys.mapM (read t now), t)
  | .batchPut pairs => (.ok (), pairs.foldl (fun t p => write t p.1 p.2 none) t)
  | .batchDelete keys => (.ok (), keys.foldl Table.erase t)

/-- Opens the file, unless it is open here. -/
def connect (w : OnDisk) : Except Cause Unit × OnDisk :=
  if w.store.isOpen then (.ok (), w)
  else
    match w.disk.opening? w.store.path with
    | none => (.error (cannotOpen w.store.path), w)
    | some t =>
      (.ok (), ⟨w.disk.keep w.store.path ⟨true, some t⟩, { w.store with isOpen := true }⟩)

/-- The values of the file, if it is open here. -/
def table? (w : OnDisk) : Option RawTable :=
  if w.store.isOpen then (w.disk.find? (Disk.name w.store.path)).bind StoreFile.content else none

/-- Closes the file, if it is open here. -/
def close (w : OnDisk) : OnDisk :=
  match table? w with
  | none => w
  | some t => ⟨w.disk.keep w.store.path ⟨false, some t⟩, { w.store with isOpen := false }⟩

/-- What a command does. -/
def exec (c : Command) (now : Reading) (w : OnDisk) : Except Cause c.Reply × OnDisk :=
  match c with
  | .connect => connect w
  | .close => (.ok (), close w)
  | c =>
    match table? w with
    | none => (.error notConnected, w)
    | some t =>
      let (r, t) := serve c now t
      (r, { w with disk := w.disk.keep w.store.path ⟨true, some t⟩ })

/-- The driver. -/
def driver : Driver (Clocked OnDisk) := Clocked.driver "redb" true exec

end Embedded

end KvBridge
