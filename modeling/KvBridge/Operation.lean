import KvBridge.Failure

/-!
# Batch operations

A batch processor performs one operation on every batch. Operations are chosen by name.

* `Operation.parse`: the operation of a name.
-/

namespace KvBridge

/-- What a batch processor does. -/
inductive Operation
  | get
  | delete
  | put
deriving DecidableEq, Repr

namespace Operation

/-- The name by which an operation is chosen. -/
def name : Operation → String
  | .get => "get"
  | .delete => "delete"
  | .put => "put"

/-- The name of the operation in the text of a processor. -/
def label : Operation → String
  | .get => "Get"
  | .delete => "Delete"
  | .put => "Put"

/-- The operation of a name. -/
def parse (s : String) : Except Failure Operation :=
  match [get, delete, put].find? (·.name == s) with
  | some op => .ok op
  | none => .error (.invalidOperation s)

end Operation

end KvBridge
