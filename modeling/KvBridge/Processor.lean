import KvBridge.Connection
import KvBridge.Operation
import KvBridge.Resolver

/-!
# Batch processors

A processor performs one operation on a batch of messages with a single command. The key of each
message, and for writing its value, are found by resolvers, all of them before the backend is
touched. The outcome stands at the place of the message that it belongs to.

* `Processor.process`: the operation on a batch;
* `Processor.answer`: what becomes of a message that was looked up.
-/

namespace KvBridge

/-- How keys and values are found. -/
structure Resolvers where
  key : Resolver
  content : Option Resolver

/-- The resolvers of a processor beside the state of its connection. -/
structure Desk (δ : Type) where
  resolvers : Resolvers
  link : Link δ

/-- A processor: its connection and its operation. -/
structure Processor (δ : Type) where
  conn : Connection δ
  operation : Operation

namespace Processor

variable {δ α : Type}

/-- Why values cannot be written. -/
def contentMissing : Failure := .invalidConfiguration "content must be set for the put operation"

/-- The processor of a connection. Writing needs a way to find values. -/
def build (conn : Connection δ) (config : ProcessorConfig) (resolvers : Resolvers) :
    Except Failure (Processor δ) :=
  match Operation.parse config.operation with
  | .error f => .error f
  | .ok operation =>
    if operation = .put ∧ resolvers.content.isNone then .error contentMissing
    else .ok ⟨conn, operation⟩

/-- A program of the connection. -/
def onLink (body : Call (Link δ) α) : Call (Desk δ) α :=
  Timed.zoom Desk.link (fun link d => { d with link }) body

/-- The keys of a batch. -/
def resolveKeys (batch : List Message) : Call (Desk δ) (List Bytes) :=
  Timed.act fun d =>
    let (r, key) := d.resolvers.key.resolveAll batch
    (r, { d with resolvers.key := key })

/-- The values of a batch. -/
def resolveContents (batch : List Message) : Call (Desk δ) (List Bytes) :=
  Timed.act fun d =>
    match d.resolvers.content with
    | none => (.error contentMissing, d)
    | some resolver =>
      let (r, resolver) := resolver.resolveAll batch
      (r, { d with resolvers.content := some resolver })

/-- A message that was looked up: the value is its content, or the miss is its failure. -/
def answer (m : Message) : Option Bytes → Message
  | some value => m.setContent value
  | none => m.setFailure .keyNotFound

/-- Why a reply of another length is refused. -/
def lengthMismatch (results keys : Nat) : Failure :=
  .transport "batch_get" none
    (.text ("driver returned " ++ toString results ++ " results for " ++ toString keys ++ " keys"))

variable (p : Processor δ)

/-- Looks the messages up. -/
def lookUp (ctx : Context) (batch : List Message) (keys : List Bytes) :
    Call (Desk δ) (List Message) := do
  let values ← onLink (p.conn.perform ctx (.batchGet keys) (.transport "batch_get" none))
  if values.length ≠ keys.length then throw (lengthMismatch values.length keys.length)
  return List.zipWith answer batch values

/-- Deletes the keys and leaves the messages as they are. -/
def delete (ctx : Context) (batch : List Message) (keys : List Bytes) :
    Call (Desk δ) (List Message) := do
  onLink (p.conn.perform ctx (.batchDelete keys) (.transport "batch_delete" none))
  return batch

/-- Writes the values, which become the contents of the messages. -/
def put (ctx : Context) (batch : List Message) (keys : List Bytes) :
    Call (Desk δ) (List Message) := do
  let values ← resolveContents batch
  onLink (p.conn.perform ctx (.batchPut (keys.zip values)) (.transport "batch_put" none))
  return List.zipWith Message.setContent batch values

/-- Performs the operation on a batch. An empty batch needs no backend. -/
def process (ctx : Context) (batch : List Message) : Call (Desk δ) (List Message) :=
  if batch.isEmpty then return []
  else
    observed "processor" p.operation.name do
      let keys ← resolveKeys batch
      match p.operation with
      | .get => p.lookUp ctx batch keys
      | .delete => p.delete ctx batch keys
      | .put => p.put ctx batch keys

/-- A processor as text. -/
def render : String :=
  "BatchProcessor \x7b operation: " ++ p.operation.label ++ ", backend: " ++
    Text.quoted p.conn.driver.name ++ ", .. \x7d"

end Processor

end KvBridge
