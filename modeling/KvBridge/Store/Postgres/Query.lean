import KvBridge.Store.Statement
import KvBridge.Time.Clock

/-!
# Queries on a table of documents

A database holds one row for each key: the key, the value, and the milliseconds at which the value
expires or NULL. A query is what is asked of the table; its statement is the text in which it is
asked. Keys, values and moments travel as parameters, so the text holds no more than the name of
the table.

* `Query`: what can be asked;
* `Query.sql`, `Query.params`, `Query.statement`: how it is asked;
* `isTableName`: the names that may stand in a statement.
-/

namespace KvBridge.Postgres

/-- Milliseconds in the database, which has signed numbers of 64 bits. -/
def dbMillis (r : Reading) : Int := min r.toNat 0x7FFFFFFFFFFFFFFF

/-- What can be asked of the database. Moments are milliseconds, and no moment means never. -/
inductive Query
  /-- Make the table if there is none. -/
  | createTable
  /-- Answer at all. -/
  | ping
  /-- Write a row. -/
  | upsert (key value : Bytes) (expiresAt : Option Int)
  /-- Read a value that is live at a moment. -/
  | select (key : Bytes) (now : Int)
  /-- Write a row if there is none that is live at a moment. -/
  | insertUnlessLive (key value : Bytes) (expiresAt : Option Int) (now : Int)
  /-- Write a row in the place of one that has a certain value and is live at a moment. -/
  | updateIfLive (key value : Bytes) (expiresAt : Option Int) (expected : Bytes) (now : Int)
  /-- Delete a row. -/
  | delete (key : Bytes)
  /-- Read the values of several keys that are live at a moment. -/
  | selectMany (keys : List Bytes) (now : Int)
  /-- Write several rows of different keys that never expire. -/
  | upsertMany (keys values : List Bytes)
  /-- Delete several rows. -/
  | deleteMany (keys : List Bytes)
deriving DecidableEq, Repr

namespace Query

/-- What an insertion does with a row that is there. -/
def overwriting : String :=
  "ON CONFLICT (key) DO UPDATE SET value = EXCLUDED.value, expires_at = EXCLUDED.expires_at"

/-- The text of a statement about a table. -/
def sql (table : String) : Query → String
  | .createTable =>
    "CREATE TABLE IF NOT EXISTS " ++ table ++
      " (key BYTEA PRIMARY KEY, value BYTEA NOT NULL, expires_at BIGINT)"
  | .ping => "SELECT 1"
  | .upsert .. =>
    "INSERT INTO " ++ table ++ " (key, value, expires_at) VALUES ($1, $2, $3) " ++ overwriting
  | .select .. =>
    "SELECT value FROM " ++ table ++
      " WHERE key = $1 AND (expires_at IS NULL OR expires_at > $2)"
  | .insertUnlessLive .. =>
    "INSERT INTO " ++ table ++ " (key, value, expires_at) VALUES ($1, $2, $3) " ++ overwriting ++
      " WHERE " ++ table ++ ".expires_at IS NOT NULL AND " ++ table ++ ".expires_at <= $4"
  | .updateIfLive .. =>
    "UPDATE " ++ table ++ " SET value = $2, expires_at = $3 " ++
      "WHERE key = $1 AND value = $4 AND (expires_at IS NULL OR expires_at > $5)"
  | .delete _ => "DELETE FROM " ++ table ++ " WHERE key = $1"
  | .selectMany .. =>
    "SELECT key, value FROM " ++ table ++
      " WHERE key = ANY($1) AND (expires_at IS NULL OR expires_at > $2)"
  | .upsertMany .. =>
    "INSERT INTO " ++ table ++ " (key, value, expires_at) " ++
      "SELECT k, v, NULL FROM UNNEST($1::bytea[], $2::bytea[]) AS src(k, v) " ++ overwriting
  | .deleteMany _ => "DELETE FROM " ++ table ++ " WHERE key = ANY($1)"

/-- A moment as a parameter. -/
def moment : Option Int → Param
  | none => .null
  | some n => .integer n

/-- The parameters of a statement. -/
def params : Query → List Param
  | .createTable | .ping => []
  | .upsert key value expiresAt => [.bytes key, .bytes value, moment expiresAt]
  | .select key now => [.bytes key, .integer now]
  | .insertUnlessLive key value expiresAt now =>
    [.bytes key, .bytes value, moment expiresAt, .integer now]
  | .updateIfLive key value expiresAt expected now =>
    [.bytes key, .bytes value, moment expiresAt, .bytes expected, .integer now]
  | .delete key => [.bytes key]
  | .selectMany keys now => [.byteArray keys, .integer now]
  | .upsertMany keys values => [.byteArray keys, .byteArray values]
  | .deleteMany keys => [.byteArray keys]

/-- A query as a statement about a table. -/
def statement (table : String) (q : Query) : Statement := ⟨q.sql table, q.params⟩

/-- Whether a query asks for rows. -/
def isSelect : Query → Bool
  | .ping | .select .. | .selectMany .. => true
  | _ => false

end Query

/-- Whether a character may stand in the name of a table. -/
def isNameChar (c : Char) : Bool := c.isAlphanum || c == '_'

/-- Whether a text may be the name of a table: letters, digits and underscores of ASCII, not
starting with a digit. -/
def isTableName (s : String) : Bool :=
  match s.toList with
  | [] => false
  | c :: cs => !c.isDigit && (c :: cs).all isNameChar

end KvBridge.Postgres
