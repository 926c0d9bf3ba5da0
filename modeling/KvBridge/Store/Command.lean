import KvBridge.Bytes
import KvBridge.Time.Duration

/-!
# Commands to a store

A store is driven by commands: its client is set up, asked whether it is ready and released, and
values are read and written between the two. Each command has a reply of its own type.

* `Command`, `Command.Reply`;
* `Command.isLifecycle`: whether a command concerns the client and not the data.
-/

namespace KvBridge

/-- What came of a conditional write: the live value that was found, and whether it was replaced. -/
structure Swap where
  previous : Option Bytes
  swapped : Bool
deriving DecidableEq, Repr

/-- A command to a store. -/
inductive Command
  | connect
  | ready
  | close
  | get (key : Bytes)
  | put (key value : Bytes)
  | putWithTtl (key value : Bytes) (ttl : Duration)
  /-- Replaces the value if it is the expected one, where none means that there is no value. -/
  | compareAndSwap (key : Bytes) (expected : Option Bytes) (new : Bytes) (ttl : Option Duration)
  | delete (key : Bytes)
  | batchGet (keys : List Bytes)
  | batchPut (pairs : List (Bytes × Bytes))
  | batchDelete (keys : List Bytes)
deriving DecidableEq, Repr

namespace Command

/-- The reply to a command that succeeds. -/
abbrev Reply : Command → Type
  | .get _ => Option Bytes
  | .compareAndSwap .. => Swap
  | .batchGet _ => List (Option Bytes)
  | _ => Unit

/-- The reply of a store that holds nothing and does nothing. -/
def blank : (c : Command) → c.Reply
  | .get _ => none
  | .compareAndSwap .. => ⟨none, false⟩
  | .batchGet _ => []
  | .connect | .ready | .close | .put .. | .putWithTtl .. | .delete _ | .batchPut _
  | .batchDelete _ => ()

/-- The name of a command. -/
def name : Command → String
  | .connect => "connect"
  | .ready => "ready"
  | .close => "close"
  | .get _ => "get"
  | .put .. => "put"
  | .putWithTtl .. => "put_with_ttl"
  | .compareAndSwap .. => "compare_and_swap"
  | .delete _ => "delete"
  | .batchGet _ => "batch_get"
  | .batchPut _ => "batch_put"
  | .batchDelete _ => "batch_delete"

/-- Whether a command concerns the client and not the data. -/
def isLifecycle : Command → Bool
  | .connect | .ready | .close => true
  | _ => false

end Command

end KvBridge
