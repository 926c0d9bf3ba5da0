import KvBridge.Bytes

/-!
# Statements to a database

A statement is a text with places for parameters; the parameters travel beside it.
-/

namespace KvBridge

/-- A parameter of a statement. -/
inductive Param
  | bytes (b : Bytes)
  | integer (n : Int)
  | null
  | byteArray (bs : List Bytes)
deriving DecidableEq, Repr

/-- A statement and its parameters. -/
structure Statement where
  sql : String
  params : List Param := []
deriving DecidableEq, Repr

end KvBridge
