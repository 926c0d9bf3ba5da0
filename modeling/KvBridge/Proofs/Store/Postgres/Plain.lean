import KvBridge.Store.Postgres.Server

/-!
# What statements mean

Whatever a server is made of, what a client sees of it is a row for each key (`RowMap`). A server is
plain if it runs each statement at one go and the statement means what it says: `Query.Means`
relates the rows before a statement to its answer and the rows after it, with a case for each way
in which a statement can come out. `Rows.view` is what a client sees of the server that holds the
table.
-/

namespace KvBridge.Postgres

/-- The rows of a table, at most one for each key. -/
def RowMap := Bytes → Option Row

namespace RowMap

def empty : RowMap := fun _ => none

/-- Writes the row of a key, whether or not there is one. -/
def write (t : RowMap) (key : Bytes) (row : Row) : RowMap :=
  fun k => if k = key then some row else t k

/-- Writes rows that never expire, one after the other. -/
def writeAll (t : RowMap) (ps : List (Bytes × Bytes)) : RowMap :=
  ps.foldl (fun t p => t.write p.1 ⟨p.2, none⟩) t

theorem writeAll_cons (t : RowMap) (p : Bytes × Bytes) (ps : List (Bytes × Bytes)) :
    t.writeAll (p :: ps) = (t.write p.1 ⟨p.2, none⟩).writeAll ps := rfl

/-- Takes out the rows of some keys. -/
def eraseAll (t : RowMap) (keys : List Bytes) : RowMap := fun k => if k ∈ keys then none else t k

/-- Puts one row in the place of those of some keys. -/
def replaceAll (t : RowMap) (keys : List Bytes) (row : Row) : RowMap :=
  fun k => if k ∈ keys then some row else t k

theorem replaceAll_nil (t : RowMap) (row : Row) : t.replaceAll [] row = t := by
  funext k
  simp [replaceAll]

theorem replaceAll_singleton (t : RowMap) (key : Bytes) (row : Row) :
    t.replaceAll [key] row = t.write key row := by
  funext k
  simp [replaceAll, write]

/-- The live value of a key. -/
def live? (t : RowMap) (now : Int) (key : Bytes) : Option Bytes :=
  match t key with
  | some row => if row.isLive now then some row.value else none
  | none => none

theorem live?_eq_some_iff (t : RowMap) (now : Int) (key value : Bytes) :
    t.live? now key = some value ↔
      ∃ row, t key = some row ∧ row.isLive now = true ∧ row.value = value := by
  simp only [live?]
  cases t key with
  | none => simp
  | some row => cases row.isLive now <;> simp

end RowMap

/-- The row has a deadline, which has come. -/
def Row.IsStale (row : Row) (now : Int) : Prop :=
  ∃ moment, row.expiresAt = some moment ∧ moment ≤ now

theorem Row.isLive_iff_not_isStale (row : Row) (now : Int) :
    row.isLive now = true ↔ ¬ row.IsStale now := by
  obtain ⟨value, _ | moment⟩ := row <;> simp [isLive, IsStale]

/-- A key has no live value if its row is stale, when there is one. -/
theorem RowMap.live?_eq_none_iff (t : RowMap) (now : Int) (key : Bytes) :
    t.live? now key = none ↔ ∀ row, t key = some row → row.IsStale now := by
  simp only [live?]
  cases t key with
  | none => simp
  | some row =>
    have h := row.isLive_iff_not_isStale now
    cases hl : row.isLive now <;> simp_all

namespace Query

/-- A statement on some rows may have an answer and leave some rows. Nothing is assumed of the order
in which rows are read, of how many rows a deletion of several keys counts, or of the insertion of
several rows with keys and values that are not equally many. -/
inductive Means (t : RowMap) : Query → Answer → RowMap → Prop
  | createTable (n : Nat) : Means t .createTable (.affected n) t
  | ping (rows : List (List Bytes)) : Means t .ping (.rows rows) t
  | upsert (key value : Bytes) (expiresAt : Option Int) :
    Means t (.upsert key value expiresAt) (.affected 1) (t.write key ⟨value, expiresAt⟩)
  | select (key : Bytes) (now : Int) :
    Means t (.select key now) (.rows ((t.live? now key).toList.map ([·]))) t
  /-- There is no row in the way, or one that is stale. -/
  | inserted (key value : Bytes) (expiresAt : Option Int) (now : Int)
    (free : ∀ row, t key = some row → row.IsStale now) :
    Means t (.insertUnlessLive key value expiresAt now) (.affected 1)
      (t.write key ⟨value, expiresAt⟩)
  | notInserted (key value : Bytes) (expiresAt : Option Int) (now : Int) (row : Row)
    (found : t key = some row) (taken : ¬ row.IsStale now) :
    Means t (.insertUnlessLive key value expiresAt now) (.affected 0) t
  /-- There is a row that is live and has the expected value. -/
  | updated (key value : Bytes) (expiresAt : Option Int) (now : Int) (row : Row)
    (found : t key = some row) (live : row.isLive now = true) :
    Means t (.updateIfLive key value expiresAt row.value now) (.affected 1)
      (t.write key ⟨value, expiresAt⟩)
  | notUpdated (key value : Bytes) (expiresAt : Option Int) (expected : Bytes) (now : Int)
    (missing : ∀ row, t key = some row → row.isLive now = true → row.value ≠ expected) :
    Means t (.updateIfLive key value expiresAt expected now) (.affected 0) t
  | delete (key : Bytes) :
    Means t (.delete key) (.affected (t key).toList.length) (t.eraseAll [key])
  /-- The live rows of the keys, each of them once, in any order. -/
  | selectMany (keys : List Bytes) (now : Int) (found : List (Bytes × Bytes))
    (once : (found.map Prod.fst).Nodup)
    (live : ∀ k v, (k, v) ∈ found ↔ k ∈ keys ∧ t.live? now k = some v) :
    Means t (.selectMany keys now) (.rows (found.map fun p => [p.1, p.2])) t
  | upsertMany (keys values : List Bytes) (length : keys.length = values.length)
    (once : keys.Nodup) :
    Means t (.upsertMany keys values) (.affected keys.length) (t.writeAll (keys.zip values))
  /-- One statement may not write a row twice. -/
  | refused (keys values : List Bytes) (message : String) (twice : ¬ keys.Nodup) :
    Means t (.upsertMany keys values) (.failed message) t
  | ragged (keys values : List Bytes) (a : Answer) (t' : RowMap)
    (length : keys.length ≠ values.length) : Means t (.upsertMany keys values) a t'
  | deleteMany (keys : List Bytes) (n : Nat) :
    Means t (.deleteMany keys) (.affected n) (t.eraseAll keys)

end Query

/-- The server runs each statement at one go, and it means what it says. -/
def Server.IsPlain {β : Type} (server : Server β) (view : β → RowMap) : Prop :=
  ∀ q b, Query.Means (view b) q (server.execute q b).1 (view (server.execute q b).2)

/-! ## The server that holds the table -/

namespace Rows

/-- The rows as a client sees them. -/
def view (t : Rows) : RowMap := t.find?

theorem view_insert (t : Rows) (key : Bytes) (row : Row) :
    view (t.insert key row) = t.view.write key row :=
  funext fun k => t.find?_insert key row k

theorem view_foldl_insert (ps : List (Bytes × Bytes)) (t : Rows) :
    view (ps.foldl (fun t p => t.insert p.1 ⟨p.2, none⟩) t) = t.view.writeAll ps := by
  induction ps generalizing t with
  | nil => rfl
  | cons p ps ih => rw [List.foldl_cons, ih, view_insert, RowMap.writeAll_cons]

theorem view_foldl_erase (keys : List Bytes) (t : Rows) :
    view (keys.foldl Table.erase t) = t.view.eraseAll keys := by
  induction keys generalizing t with
  | nil =>
    funext k
    simp [RowMap.eraseAll]
  | cons key keys ih =>
    funext k
    rw [List.foldl_cons, ih]
    simp only [RowMap.eraseAll, view, Table.find?_erase, List.mem_cons]
    by_cases h : k = key <;> simp [h]

end Rows

end KvBridge.Postgres
