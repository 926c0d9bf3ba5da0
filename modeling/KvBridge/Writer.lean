import KvBridge.Processor

/-!
# Batch writers

A writer stores every message of a batch with one command. Unless it is told otherwise it takes the
key of a message from its metadata, or draws an identifier, and stores the content as it is.

* `Resolvers.byId`: the keys and values of a writer that draws identifiers;
* `Writer.write`: storing a batch.
-/

namespace KvBridge

/-- The key is the text named `id`, or else an identifier; the value is the content. -/
def Resolvers.byId (ids : IdSource) : Resolvers := ⟨.metadata "id" (some ids), some .content⟩

/-- A writer: a processor that writes. -/
structure Writer (δ : Type) where
  processor : Processor δ

namespace Writer

variable {δ : Type}

/-- The writer of a connection. -/
def ofConnection (conn : Connection δ) : Writer δ := ⟨⟨conn, .put⟩⟩

variable (w : Writer δ)

/-- Stores every message of a batch. -/
def write (ctx : Context) (batch : List Message) : Call (Desk δ) Unit := do
  let _ ← w.processor.process ctx batch

/-- A writer as text. -/
def render : String := "BatchWriter \x7b processor: " ++ w.processor.render ++ " \x7d"

end Writer

end KvBridge
