import KvBridge.Store.Postgres.Query
import KvBridge.Store.Table

/-!
# Servers

A server lets clients sign in, and answers queries one after the other.

* `Server`: what a server does;
* `Server.scripted`: a server that answers from a list, whatever is asked;
* `Server.table`: a server that holds the table and does what the queries say.
-/

namespace KvBridge.Postgres

/-- How a client presents itself. -/
structure Login where
  user : Option String
  password : Option String
  database : String
deriving DecidableEq, Repr

/-- What a server answers: an error, rows, or the number of rows that were touched. -/
inductive Answer
  | failed (message : String)
  | rows (rows : List (List Bytes))
  | affected (count : Nat)
deriving DecidableEq, Repr

namespace Answer

/-- The rows of an answer. -/
def toRows : Answer → List (List Bytes)
  | .rows rs => rs
  | _ => []

/-- The number of rows that were touched. -/
def count : Answer → Nat
  | .affected n => n
  | _ => 1

end Answer

/-- A server on states `β`. -/
structure Server (β : Type) where
  signIn : Login → β → Bool × β
  execute : Query → β → Answer × β

/-! ## A server that follows a script -/

/-- What a scripted server lets in and what it answers next. -/
structure Script where
  admits : Bool
  answers : List Answer
deriving DecidableEq, Repr

/-- Each query takes the next answer; without one it finds no row or touches one. -/
def Server.scripted : Server Script where
  signIn _ s := (s.admits, s)
  execute q s :=
    match s.answers with
    | [] => (if q.isSelect then .rows [] else .affected 1, s)
    | a :: as => (a, { s with answers := as })

/-! ## A server that holds the table -/

/-- The rest of a row. -/
structure Row where
  value : Bytes
  expiresAt : Option Int
deriving DecidableEq, Repr

/-- Whether a row is live at a moment: `expires_at IS NULL OR expires_at > now`. -/
def Row.isLive (r : Row) (now : Int) : Bool := r.expiresAt.all (now < ·)

/-- The rows under their keys. -/
abbrev Rows := Table Bytes Row

/-- The live value of a key. -/
def Rows.live? (t : Rows) (key : Bytes) (now : Int) : Option Bytes :=
  match t.find? key with
  | some r => if r.isLive now then some r.value else none
  | none => none

/-- What a query does to the table, and its answer. One statement may not write a row twice. -/
def Rows.execute (q : Query) (t : Rows) : Answer × Rows :=
  match q with
  | .createTable => (.affected 0, t)
  | .ping => (.rows [[]], t)
  | .upsert key value expiresAt => (.affected 1, t.insert key ⟨value, expiresAt⟩)
  | .select key now => (.rows ((t.live? key now).toList.map ([·])), t)
  | .insertUnlessLive key value expiresAt now =>
    match t.find? key with
    | some r =>
      if r.expiresAt.any (· ≤ now) then (.affected 1, t.insert key ⟨value, expiresAt⟩)
      else (.affected 0, t)
    | none => (.affected 1, t.insert key ⟨value, expiresAt⟩)
  | .updateIfLive key value expiresAt expected now =>
    if t.live? key now = some expected then (.affected 1, t.insert key ⟨value, expiresAt⟩)
    else (.affected 0, t)
  | .delete key => (.affected (t.find? key).toList.length, t.erase key)
  | .selectMany keys now =>
    (.rows ((t.entries.filter fun e => e.2.isLive now && keys.contains e.1).map
      fun e => [e.1, e.2.value]), t)
  | .upsertMany keys values =>
    if keys.Nodup then
      (.affected keys.length,
        (keys.zip values).foldl (fun t p => t.insert p.1 ⟨p.2, none⟩) t)
    else (.failed "ON CONFLICT DO UPDATE command cannot affect row a second time", t)
  | .deleteMany keys =>
    (.affected (t.entries.countP fun e => keys.contains e.1), keys.foldl Table.erase t)

/-- The server lets everyone in. -/
def Server.table : Server Rows where
  signIn _ t := (true, t)
  execute := Rows.execute

end KvBridge.Postgres
