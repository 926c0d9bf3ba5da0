import KvBridge.Proofs.Store.Postgres.Plain

/-!
# Statements and what is bound to their places

A statement is a text with places `$1`, `$2` and so on, and a list of parameters beside it. What it
does hangs on which parameter is bound to which place. A form is a statement taken apart: it has a
text (`Form.text`), and it means something for rows once parameters are bound to its places
(`Form.Means`).

Each query is sent as the text of its form (`Query.sql_eq_text`), and with the parameters that are
sent beside it the form means what the query does (`Query.means_of_form`). So a server is plain that
does what texts mean with what is bound to their places (`Server.Conforms.isPlain`). The server that
holds the table does so (`Server.conforms_table`).
-/

namespace KvBridge.Postgres

/-! ## Texts -/

/-- A place for a parameter in a text. -/
def place (n : Nat) : String := "$" ++ toString n

/-- The columns of a table. -/
inductive Column
  | key
  | value
  | expiresAt

def Column.name : Column → String
  | .key => "key"
  | .value => "value"
  | .expiresAt => "expires_at"

/-- A condition on a row. Columns are compared with what is bound to places. -/
inductive Condition
  | equals (c : Column) (n : Nat)
  | among (c : Column) (n : Nat)
  | after (c : Column) (n : Nat)
  | notAfter (c : Column) (n : Nat)
  | isNull (c : Column)
  | isNotNull (c : Column)
  | both (a b : Condition)
  | either (a b : Condition)

/-- The text of a condition, with a text before the name of each column. -/
def Condition.text (owner : String) : Condition → String
  | .equals c n => owner ++ c.name ++ " = " ++ place n
  | .among c n => owner ++ c.name ++ " = ANY(" ++ place n ++ ")"
  | .after c n => owner ++ c.name ++ " > " ++ place n
  | .notAfter c n => owner ++ c.name ++ " <= " ++ place n
  | .isNull c => owner ++ c.name ++ " IS NULL"
  | .isNotNull c => owner ++ c.name ++ " IS NOT NULL"
  | .both a b => a.text owner ++ " AND " ++ b.text owner
  | .either a b => "(" ++ a.text owner ++ " OR " ++ b.text owner ++ ")"

/-- A statement taken apart. Numbers are places. -/
inductive Form
  | createTable
  | ping
  /-- Reads the values of rows, with their keys or without. -/
  | select (withKey : Bool) (rows : Condition)
  /-- Writes a row, over one that is there only if that one meets a condition. -/
  | insert (key value expiresAt : Nat) (overwrites : Option Condition)
  /-- Writes rows that never expire, whose keys and values are in two arrays. -/
  | insertAll (keys values : Nat)
  | update (value expiresAt : Nat) (rows : Condition)
  | delete (rows : Condition)

namespace Form

/-- What is said of writing over a row. -/
def overwritesText (table : String) : Option Condition → String
  | none => ""
  | some c => " WHERE " ++ c.text (table ++ ".")

def text (table : String) : Form → String
  | .createTable =>
    "CREATE TABLE IF NOT EXISTS " ++ table ++
      " (key BYTEA PRIMARY KEY, value BYTEA NOT NULL, expires_at BIGINT)"
  | .ping => "SELECT 1"
  | .select withKey rows =>
    "SELECT " ++ (if withKey then "key, value" else "value") ++ " FROM " ++ table ++
      (" WHERE " ++ rows.text "")
  | .insert key value expiresAt overwrites =>
    "INSERT INTO " ++ table ++ (" (key, value, expires_at) VALUES (" ++ place key ++ ", " ++
      place value ++ ", " ++ place expiresAt ++ ") " ++ Query.overwriting) ++
      overwritesText table overwrites
  | .insertAll keys values =>
    "INSERT INTO " ++ table ++ (" (key, value, expires_at) SELECT k, v, NULL FROM UNNEST(" ++
      place keys ++ "::bytea[], " ++ place values ++ "::bytea[]) AS src(k, v) " ++
      Query.overwriting)
  | .update value expiresAt rows =>
    "UPDATE " ++ table ++ (" SET value = " ++ place value ++ ", expires_at = " ++
      place expiresAt ++ " WHERE " ++ rows.text "")
  | .delete rows => "DELETE FROM " ++ table ++ (" WHERE " ++ rows.text "")

end Form

namespace Query

/-- The row has not expired at the moment that is bound to a place. -/
def unexpired (n : Nat) : Condition := .either (.isNull .expiresAt) (.after .expiresAt n)

/-- The row has expired at the moment that is bound to a place. -/
def expired (n : Nat) : Condition := .both (.isNotNull .expiresAt) (.notAfter .expiresAt n)

/-- The form in which a query is sent. -/
def form : Query → Form
  | .createTable => .createTable
  | .ping => .ping
  | .upsert .. => .insert 1 2 3 none
  | .select .. => .select false (.both (.equals .key 1) (unexpired 2))
  | .insertUnlessLive .. => .insert 1 2 3 (some (expired 4))
  | .updateIfLive .. =>
    .update 2 3 (.both (.both (.equals .key 1) (.equals .value 4)) (unexpired 5))
  | .delete _ => .delete (.equals .key 1)
  | .selectMany .. => .select true (.both (.among .key 1) (unexpired 2))
  | .upsertMany .. => .insertAll 1 2
  | .deleteMany _ => .delete (.among .key 1)

theorem values_text : " (key, value, expires_at) VALUES ($1, $2, $3) " =
    " (key, value, expires_at) VALUES (" ++ place 1 ++ ", " ++ place 2 ++ ", " ++ place 3 ++ ") " :=
  by decide +kernel

/-- A query is sent as the text of its form. -/
theorem sql_eq_text (table : String) (q : Query) : q.sql table = q.form.text table := by
  cases q
  all_goals
    delta sql form Form.text Form.overwritesText
    dsimp only
  -- What is left is to put the texts between the names of the table together.
  case upsert =>
    rw [values_text, String.append_empty]
    simp only [String.append_assoc]
  case select =>
    have columns : "SELECT value FROM " = "SELECT " ++ "value" ++ " FROM " := by decide +kernel
    have rows : " WHERE key = $1 AND (expires_at IS NULL OR expires_at > $2)" =
      " WHERE " ++ (Condition.both (.equals .key 1) (unexpired 2)).text "" := by decide +kernel
    rw [columns, rows, if_neg Bool.false_ne_true]
  case insertUnlessLive =>
    have notNull : ".expires_at IS NOT NULL AND " =
      "." ++ "expires_at" ++ " IS NOT NULL" ++ " AND " := by decide +kernel
    have due : ".expires_at <= $4" = "." ++ "expires_at" ++ " <= " ++ place 4 := by decide +kernel
    rw [values_text, notNull, due]
    simp only [expired, Condition.text, Column.name, String.append_assoc]
  case updateIfLive =>
    have rows : " SET value = $2, expires_at = $3 " ++
        "WHERE key = $1 AND value = $4 AND (expires_at IS NULL OR expires_at > $5)" =
      " SET value = " ++ place 2 ++ ", expires_at = " ++ place 3 ++ " WHERE " ++
        (Condition.both (.both (.equals .key 1) (.equals .value 4)) (unexpired 5)).text "" := by
      decide +kernel
    rw [String.append_assoc, rows]
  case delete =>
    have rows : " WHERE key = $1" = " WHERE " ++ (Condition.equals .key 1).text "" := by
      decide +kernel
    rw [rows]
  case selectMany =>
    have columns : "SELECT key, value FROM " = "SELECT " ++ "key, value" ++ " FROM " := by
      decide +kernel
    have rows : " WHERE key = ANY($1) AND (expires_at IS NULL OR expires_at > $2)" =
      " WHERE " ++ (Condition.both (.among .key 1) (unexpired 2)).text "" := by decide +kernel
    rw [columns, rows, if_pos rfl]
  case upsertMany =>
    have rows : " (key, value, expires_at) " ++
        "SELECT k, v, NULL FROM UNNEST($1::bytea[], $2::bytea[]) AS src(k, v) " =
      " (key, value, expires_at) SELECT k, v, NULL FROM UNNEST(" ++ place 1 ++ "::bytea[], " ++
        place 2 ++ "::bytea[]) AS src(k, v) " := by decide +kernel
    rw [← rows]
    simp only [String.append_assoc]
  case deleteMany =>
    have rows : " WHERE key = ANY($1)" = " WHERE " ++ (Condition.among .key 1).text "" := by
      decide +kernel
    rw [rows]

end Query

/-! ## What forms mean -/

/-- What is bound to a place. Places count from one. -/
def bound (params : List Param) (n : Nat) : Param := (.null :: params).getD n .null

/-- What stands in a column of a row. -/
def Column.cell (key : Bytes) (row : Row) : Column → Param
  | .key => .bytes key
  | .value => .bytes row.value
  | .expiresAt => Query.moment row.expiresAt

namespace Condition

/-- The row of a key meets a condition. What is compared with NULL does not, and no condition says
that another one is not met. -/
def Holds (params : List Param) : Condition → Bytes → Row → Prop
  | .equals c n, key, row => ∃ b, c.cell key row = .bytes b ∧ bound params n = .bytes b
  | .among c n, key, row =>
    ∃ b bs, c.cell key row = .bytes b ∧ bound params n = .byteArray bs ∧ b ∈ bs
  | .after c n, key, row =>
    ∃ i j, c.cell key row = .integer i ∧ bound params n = .integer j ∧ j < i
  | .notAfter c n, key, row =>
    ∃ i j, c.cell key row = .integer i ∧ bound params n = .integer j ∧ i ≤ j
  | .isNull c, key, row => c.cell key row = .null
  | .isNotNull c, key, row => c.cell key row ≠ .null
  | .both a b, key, row => a.Holds params key row ∧ b.Holds params key row
  | .either a b, key, row => a.Holds params key row ∨ b.Holds params key row

variable {params : List Param} {n : Nat} {k key value : Bytes} {keys : List Bytes} {row : Row}
  {now : Int}

theorem holds_equals_key (h : bound params n = .bytes key) :
    (equals .key n).Holds params k row ↔ k = key := by
  simp [Holds, Column.cell, h, eq_comm]

theorem holds_equals_value (h : bound params n = .bytes value) :
    (equals .value n).Holds params k row ↔ row.value = value := by
  simp [Holds, Column.cell, h, eq_comm]

theorem holds_among_key (h : bound params n = .byteArray keys) :
    (among .key n).Holds params k row ↔ k ∈ keys := by
  simp [Holds, Column.cell, h]

theorem holds_unexpired (h : bound params n = .integer now) :
    (Query.unexpired n).Holds params k row ↔ row.isLive now = true := by
  obtain ⟨value, _ | moment⟩ := row <;>
    simp [Query.unexpired, Holds, Column.cell, h, Query.moment, Row.isLive]

theorem holds_expired (h : bound params n = .integer now) :
    (Query.expired n).Holds params k row ↔ row.IsStale now := by
  obtain ⟨value, _ | moment⟩ := row <;>
    simp [Query.expired, Holds, Column.cell, h, Query.moment, Row.IsStale]

end Condition

/-- The keys of the rows with a property, each of them once. -/
structure RowMap.Hits (t : RowMap) (p : Bytes → Row → Prop) (keys : List Bytes) : Prop where
  once : keys.Nodup
  exact : ∀ k, k ∈ keys ↔ ∃ row, t k = some row ∧ p k row

namespace RowMap.Hits

variable {t : RowMap} {p q : Bytes → Row → Prop} {keys : List Bytes} {key : Bytes}

theorem congr (h : t.Hits p keys) (hp : ∀ k row, p k row ↔ q k row) : t.Hits q keys :=
  ⟨h.once, fun k => (h.exact k).trans (by simp only [hp])⟩

/-- The row of a key has the property. -/
theorem singleton {p : Row → Prop} {row : Row} (hr : t key = some row) (hp : p row) :
    t.Hits (fun k row => k = key ∧ p row) [key] where
  once := List.pairwise_singleton _ key
  exact k := by
    rw [List.mem_singleton]
    constructor
    · rintro rfl
      exact ⟨row, hr, rfl, hp⟩
    · rintro ⟨_, _, hk, _⟩
      exact hk

theorem nil {p : Row → Prop} (h : ∀ row, t key = some row → ¬ p row) :
    t.Hits (fun k row => k = key ∧ p row) [] where
  once := .nil
  exact k := by
    refine iff_of_false nofun ?_
    rintro ⟨row, hr, rfl, hp⟩
    exact h row hr hp

/-- A property that only the row of one key can have. -/
theorem of_key {p : Row → Prop} (h : t.Hits (fun k row => k = key ∧ p row) keys) :
    (∃ row, t key = some row ∧ p row ∧ keys = [key]) ∨
      (∀ row, t key = some row → ¬ p row) ∧ keys = [] := by
  have all (k : Bytes) (hk : k ∈ keys) : k = key :=
    have ⟨_, _, he, _⟩ := (h.exact k).1 hk
    he
  cases keys with
  | nil => exact .inr ⟨fun row hr hp => absurd ((h.exact key).2 ⟨row, hr, rfl, hp⟩) nofun, rfl⟩
  | cons k ks =>
    obtain rfl := all k List.mem_cons_self
    obtain ⟨row, hr, -, hp⟩ := (h.exact k).1 List.mem_cons_self
    have rest : ks = [] := by
      refine List.eq_nil_iff_forall_not_mem.2 fun j hj => ?_
      obtain rfl := all j (List.mem_cons_of_mem _ hj)
      exact (List.nodup_cons.1 h.once).1 hj
    exact .inl ⟨row, hr, hp, by rw [rest]⟩

/-- The values that are read of one key. -/
theorem values {now : Int} {found : List (Bytes × Row)}
    (h : t.Hits (fun k row => k = key ∧ row.isLive now = true) (found.map Prod.fst))
    (rows : ∀ p ∈ found, t p.1 = some p.2) :
    found.map (fun p => [p.2.value]) = (t.live? now key).toList.map ([·]) := by
  obtain ⟨row, hr, live, hf⟩ | ⟨stale, hf⟩ := h.of_key
  · obtain ⟨⟨k, row'⟩, rfl, rfl⟩ := List.map_eq_singleton_iff.1 hf
    cases hr.symm.trans (rows _ List.mem_cons_self)
    rw [(t.live?_eq_some_iff now _ _).2 ⟨_, hr, live, rfl⟩]
    rfl
  · have none := (t.live?_eq_none_iff now key).2 fun row hr =>
      Classical.not_not.1 (mt (row.isLive_iff_not_isStale now).2 (stale row hr))
    rw [List.map_eq_nil_iff.1 hf, none]
    rfl

/-- How many rows there are of one key. -/
theorem length_eq (h : t.Hits (fun k _ => k = key) keys) :
    keys.length = (t key).toList.length := by
  obtain ⟨row, hr, -, rfl⟩ | ⟨none, rfl⟩ :=
    (h.congr fun k _ => iff_of_eq (and_true (k = key)).symm).of_key
  · rw [hr]
    rfl
  · rw [Option.eq_none_iff_forall_ne_some.2 fun row hr => none row hr trivial]
    rfl

/-- To take out the rows of some keys it is enough to take out those that are there. -/
theorem eraseAll_eq {wanted : List Bytes} (h : t.Hits (fun k _ => k ∈ wanted) keys) :
    t.eraseAll keys = t.eraseAll wanted := by
  funext k
  have exact := h.exact k
  simp only [eraseAll]
  cases ht : t k with
  | none => simp only [ite_self]
  | some row => simp_all

/-- The rows that are found, and nothing else, are live rows of the keys. -/
theorem live {wanted : List Bytes} {now : Int} {found : List (Bytes × Row)}
    (h : t.Hits (fun k row => k ∈ wanted ∧ row.isLive now = true) (found.map Prod.fst))
    (rows : ∀ p ∈ found, t p.1 = some p.2) (k v : Bytes) :
    (k, v) ∈ found.map (fun p => (p.1, p.2.value)) ↔ k ∈ wanted ∧ t.live? now k = some v := by
  simp only [List.mem_map, Prod.exists, Prod.mk.injEq, live?_eq_some_iff]
  constructor
  · rintro ⟨k, row, hf, rfl, rfl⟩
    obtain ⟨_, hr, hk, hl⟩ := (h.exact k).1 (List.mem_map_of_mem hf)
    cases hr.symm.trans (rows _ hf)
    exact ⟨hk, _, hr, hl, rfl⟩
  · rintro ⟨hk, row, hr, hl, rfl⟩
    obtain ⟨⟨k, row'⟩, hf, rfl⟩ := List.mem_map.1 ((h.exact k).2 ⟨row, hr, hk, hl⟩)
    cases hr.symm.trans (rows _ hf)
    exact ⟨k, _, hf, rfl, rfl⟩

end RowMap.Hits

/-- With parameters bound to its places a form may have an answer and leave some rows. -/
inductive Form.Means (params : List Param) (t : RowMap) : Form → Answer → RowMap → Prop
  | createTable (n : Nat) : Means params t .createTable (.affected n) t
  | ping (rows : List (List Bytes)) : Means params t .ping (.rows rows) t
  | select (withKey : Bool) (c : Condition) (found : List (Bytes × Row))
    (hits : t.Hits (c.Holds params) (found.map Prod.fst)) (rows : ∀ p ∈ found, t p.1 = some p.2) :
    Means params t (.select withKey c)
      (.rows (found.map fun p => if withKey then [p.1, p.2.value] else [p.2.value])) t
  /-- There is no row in the way, or one that may be written over. -/
  | inserted {k v e : Nat} {overwrites : Option Condition} (key value : Bytes)
    (expiresAt : Option Int)
    (key_bound : bound params k = .bytes key) (value_bound : bound params v = .bytes value)
    (moment_bound : bound params e = Query.moment expiresAt)
    (free : ∀ row, t key = some row → ∀ c ∈ overwrites, c.Holds params key row) :
    Means params t (.insert k v e overwrites) (.affected 1) (t.write key ⟨value, expiresAt⟩)
  | notInserted {k v e : Nat} (c : Condition) (key : Bytes) (row : Row)
    (key_bound : bound params k = .bytes key) (found : t key = some row)
    (taken : ¬ c.Holds params key row) :
    Means params t (.insert k v e (some c)) (.affected 0) t
  | insertedAll {k v : Nat} (keys values : List Bytes)
    (keys_bound : bound params k = .byteArray keys)
    (values_bound : bound params v = .byteArray values)
    (length : keys.length = values.length) (once : keys.Nodup) :
    Means params t (.insertAll k v) (.affected keys.length) (t.writeAll (keys.zip values))
  /-- One statement may not write a row twice. -/
  | refused {k v : Nat} (keys : List Bytes) (message : String)
    (keys_bound : bound params k = .byteArray keys) (twice : ¬ keys.Nodup) :
    Means params t (.insertAll k v) (.failed message) t
  /-- Nothing is said of arrays that are not equally long. -/
  | ragged {k v : Nat} (keys values : List Bytes) (a : Answer) (t' : RowMap)
    (keys_bound : bound params k = .byteArray keys)
    (values_bound : bound params v = .byteArray values) (length : keys.length ≠ values.length) :
    Means params t (.insertAll k v) a t'
  | update {v e : Nat} (c : Condition) (value : Bytes) (expiresAt : Option Int) (keys : List Bytes)
    (value_bound : bound params v = .bytes value)
    (moment_bound : bound params e = Query.moment expiresAt) (hits : t.Hits (c.Holds params) keys) :
    Means params t (.update v e c) (.affected keys.length)
      (t.replaceAll keys ⟨value, expiresAt⟩)
  | delete (c : Condition) (keys : List Bytes) (hits : t.Hits (c.Holds params) keys) :
    Means params t (.delete c) (.affected keys.length) (t.eraseAll keys)

/-! ## What the forms of the queries mean -/

namespace Query

variable {t t' : RowMap} {a : Answer}

/-- An expiry is what it is sent as. -/
theorem moment_injective {m m' : Option Int} (h : moment m = moment m') : m = m' := by
  cases m <;> cases m' <;> simp_all [moment]

section

open Condition

variable {k key value expected : Bytes} {keys : List Bytes} {expiresAt : Option Int} {now : Int}
  {row : Row}

theorem holds_select : (Condition.both (.equals .key 1) (unexpired 2)).Holds (select key now).params
    k row ↔ k = key ∧ row.isLive now = true :=
  and_congr (holds_equals_key rfl) (holds_unexpired rfl)

theorem holds_updateIfLive :
    (Condition.both (.both (.equals .key 1) (.equals .value 4)) (unexpired 5)).Holds
        (updateIfLive key value expiresAt expected now).params k row ↔
      k = key ∧ row.value = expected ∧ row.isLive now = true :=
  (and_congr (and_congr (holds_equals_key rfl) (holds_equals_value rfl))
    (holds_unexpired rfl)).trans and_assoc

theorem holds_insertUnlessLive : (expired 4).Holds
    (insertUnlessLive key value expiresAt now).params k row ↔ row.IsStale now :=
  holds_expired rfl

theorem holds_delete : (Condition.equals .key 1).Holds (delete key).params k row ↔ k = key :=
  holds_equals_key rfl

theorem holds_selectMany : (Condition.both (.among .key 1) (unexpired 2)).Holds
    (selectMany keys now).params k row ↔ k ∈ keys ∧ row.isLive now = true :=
  and_congr (holds_among_key rfl) (holds_unexpired rfl)

theorem holds_deleteMany :
    (Condition.among .key 1).Holds (deleteMany keys).params k row ↔ k ∈ keys :=
  holds_among_key rfl

end

/-- With its parameters bound to its places the form of a query means what the query does. -/
theorem means_of_form {q : Query} (h : q.form.Means q.params t a t') : q.Means t a t' := by
  cases q with
  | createTable =>
    cases h
    exact .createTable _
  | ping =>
    cases h
    exact .ping _
  | upsert key value expiresAt =>
    cases h with
    | inserted _ _ _ hk hv he _ =>
      cases hk
      cases hv
      cases moment_injective he
      exact .upsert ..
  | select key now =>
    cases h with
    | select _ _ found hits rows =>
      have answer := (hits.congr fun _ _ => holds_select).values rows
      exact answer ▸ .select key now
  | insertUnlessLive key value expiresAt now =>
    cases h with
    | inserted _ _ _ hk hv he free =>
      cases hk
      cases hv
      cases moment_injective he
      exact .inserted _ _ _ _ fun row hr => holds_insertUnlessLive.1 (free row hr _ rfl)
    | notInserted _ _ row hk found taken =>
      cases hk
      exact .notInserted _ _ _ _ row found fun stale => taken (holds_insertUnlessLive.2 stale)
  | updateIfLive key value expiresAt expected now =>
    cases h with
    | update _ _ _ keys hv he hits =>
      cases hv
      cases moment_injective he
      have one := (hits.congr fun _ _ => holds_updateIfLive).of_key
      obtain ⟨row, hr, ⟨rfl, live⟩, rfl⟩ | ⟨missing, rfl⟩ := one
      · rw [t.replaceAll_singleton]
        exact .updated _ _ _ _ row hr live
      · rw [t.replaceAll_nil]
        exact .notUpdated _ _ _ _ _ fun row hr live hv => missing row hr ⟨hv, live⟩
  | delete key =>
    cases h with
    | delete _ keys hits =>
      have mine := hits.congr fun _ _ => holds_delete
      rw [mine.length_eq, (mine.congr fun _ _ => List.mem_singleton.symm).eraseAll_eq]
      exact .delete key
  | selectMany keys now =>
    cases h with
    | select _ _ found hits rows =>
      have wanted := hits.congr fun _ _ => holds_selectMany
      have answer : found.map (fun p => [p.1, p.2.value]) =
          (found.map fun p => (p.1, p.2.value)).map fun p => [p.1, p.2] := by
        rw [List.map_map]
        rfl
      refine answer ▸ .selectMany keys now _ ?_ (wanted.live rows)
      rw [List.map_map]
      exact hits.once
  | upsertMany keys values =>
    cases h with
    | insertedAll _ _ hk hv length once =>
      cases hk
      cases hv
      exact .upsertMany _ _ length once
    | refused _ message hk twice =>
      cases hk
      exact .refused _ _ message twice
    | ragged _ _ _ _ hk hv length =>
      cases hk
      cases hv
      exact .ragged _ _ _ _ length
  | deleteMany keys =>
    cases h with
    | delete _ found hits =>
      rw [(hits.congr fun _ _ => holds_deleteMany).eraseAll_eq]
      exact .deleteMany keys _

end Query

/-! ## Servers that are sent statements -/

/-- The server runs each statement at one go, and does what its text means with the parameters that
are bound to its places. -/
def Server.Conforms {β : Type} (server : Server β) (view : β → RowMap) : Prop :=
  ∀ (q : Query) b,
    q.form.Means q.params (view b) (server.execute q b).1 (view (server.execute q b).2)

theorem Server.Conforms.isPlain {β : Type} {server : Server β} {view : β → RowMap}
    (h : server.Conforms view) : server.IsPlain view := fun q b => Query.means_of_form (h q b)

namespace Rows

theorem view_ne_some (t : Rows) {key : Bytes} (h : t.find? key = none) (row : Row) :
    t.view key ≠ some row := by
  rw [view, h]
  exact (Option.some_ne_none row).symm

/-- The rows with a property, by their keys. -/
theorem hits_filter (t : Rows) (p : Bytes → Row → Prop) (f : Bytes × Row → Bool)
    (hf : ∀ k row, f (k, row) = true ↔ p k row) :
    t.view.Hits p ((t.entries.filter f).map Prod.fst) where
  once := t.nodup.sublist (List.filter_sublist.map _)
  exact k := by
    simp only [List.mem_map, List.mem_filter, Prod.exists, hf, t.mem_entries]
    constructor
    · rintro ⟨k, row, ⟨hr, hp⟩, rfl⟩
      exact ⟨row, hr, hp⟩
    · rintro ⟨row, hr, hp⟩
      exact ⟨k, row, ⟨hr, hp⟩, rfl⟩

end Rows

open Query in
/-- The server that holds the table does what texts mean. -/
theorem Server.conforms_table : Server.table.Conforms Rows.view := by
  intro q t
  cases q with
  | createTable => exact .createTable 0
  | ping => exact .ping _
  | upsert key value expiresAt =>
    simp only [table, Rows.execute, Rows.view_insert]
    exact .inserted _ _ _ rfl rfl rfl fun _ _ => nofun
  | select key now =>
    simp only [table, Rows.execute]
    cases hv : t.live? key now with
    | none =>
      have hits := RowMap.Hits.nil fun row hr =>
        mt (row.isLive_iff_not_isStale now).1
          (not_not_intro ((t.view.live?_eq_none_iff now key).1 hv row hr))
      exact .select false _ [] (hits.congr fun _ _ => holds_select.symm) nofun
    | some v =>
      obtain ⟨row, hf, hl, rfl⟩ := (t.view.live?_eq_some_iff now key v).1 hv
      have hits := RowMap.Hits.singleton (p := fun r => r.isLive now = true) hf hl
      exact .select false _ [(key, row)] (hits.congr fun _ _ => holds_select.symm)
        fun p hp => List.mem_singleton.1 hp ▸ hf
  | insertUnlessLive key value expiresAt now =>
    simp only [table, Rows.execute]
    cases hf : t.find? key with
    | none =>
      simp only [Rows.view_insert]
      exact .inserted _ _ _ rfl rfl rfl fun row hr => absurd hr (t.view_ne_some hf row)
    | some row =>
      have stale : row.expiresAt.any (· ≤ now) = true ↔ row.IsStale now := by
        simp [Row.IsStale, Option.any_eq_true]
      simp only
      split
      · rename_i hs
        rw [Rows.view_insert]
        refine .inserted _ _ _ rfl rfl rfl fun row' hr c hc => ?_
        cases hf.symm.trans hr
        cases hc
        exact holds_insertUnlessLive.2 (stale.1 hs)
      · rename_i hs
        exact .notInserted _ _ row rfl hf fun h => hs (stale.2 (holds_insertUnlessLive.1 h))
  | updateIfLive key value expiresAt expected now =>
    simp only [table, Rows.execute]
    by_cases hv : t.live? key now = some expected
    · obtain ⟨row, hf, hl, rfl⟩ := (t.view.live?_eq_some_iff now key expected).1 hv
      have hits := RowMap.Hits.singleton (p := fun r => r.value = row.value ∧ r.isLive now = true)
        hf ⟨rfl, hl⟩
      rw [if_pos hv, Rows.view_insert, ← RowMap.replaceAll_singleton]
      exact .update _ _ _ [key] rfl rfl (hits.congr fun _ _ => holds_updateIfLive.symm)
    · have hits := RowMap.Hits.nil fun row hf (hr : row.value = expected ∧ row.isLive now = true) =>
        hv ((t.view.live?_eq_some_iff now key expected).2 ⟨row, hf, hr.2, hr.1⟩)
      have means : (updateIfLive key value expiresAt expected now).form.Means
          (updateIfLive key value expiresAt expected now).params t.view (.affected 0)
          (t.view.replaceAll [] ⟨value, expiresAt⟩) :=
        .update _ _ _ [] rfl rfl (hits.congr fun _ _ => holds_updateIfLive.symm)
      rw [if_neg hv]
      rwa [RowMap.replaceAll_nil] at means
  | delete key =>
    have erased := Rows.view_foldl_erase [key] t
    simp only [List.foldl_cons, List.foldl_nil] at erased
    have means (keys : List Bytes) (hits : t.view.Hits (fun k _ => k = key ∧ True) keys) :
        (delete key).form.Means (delete key).params t.view (.affected keys.length)
          (t.view.eraseAll [key]) := by
      have hits := hits.congr fun k _ => iff_of_eq (and_true (k = key))
      rw [← (hits.congr fun _ _ => List.mem_singleton.symm).eraseAll_eq]
      exact .delete _ keys (hits.congr fun _ _ => holds_delete.symm)
    simp only [table, Rows.execute, erased]
    cases hf : t.find? key with
    | none => exact means [] (.nil fun row hr => absurd hr (t.view_ne_some hf row))
    | some row => exact means [key] (.singleton hf trivial)
  | selectMany keys now =>
    have hits := t.hits_filter (fun k row => k ∈ keys ∧ row.isLive now = true)
      (fun e => e.2.isLive now && keys.contains e.1) fun k row => by
        rw [Bool.and_eq_true, List.contains_iff_mem, and_comm]
    exact .select true _ _ (hits.congr fun _ _ => holds_selectMany.symm) fun p hp =>
      (t.mem_entries p.1 p.2).1 (List.mem_filter.1 hp).1
  | deleteMany keys =>
    have hits := t.hits_filter (fun k _ => k ∈ keys) (fun e => keys.contains e.1) fun k row =>
      List.contains_iff_mem
    simp only [table, Rows.execute, Rows.view_foldl_erase]
    rw [← hits.eraseAll_eq, List.countP_eq_length_filter]
    have means := Form.Means.delete _ _ (hits.congr fun _ _ => holds_deleteMany.symm)
    rwa [List.length_map] at means
  | upsertMany keys values =>
    simp only [table, Rows.execute]
    split
    · rename_i hk
      simp only [Rows.view_foldl_insert]
      by_cases hl : keys.length = values.length
      · exact .insertedAll keys values rfl rfl hl hk
      · exact .ragged keys values _ _ rfl rfl hl
    · rename_i hk
      exact .refused keys _ rfl hk

/-- The server that holds the table is plain. -/
theorem Server.isPlain_table : Server.table.IsPlain Rows.view := Server.conforms_table.isPlain

end KvBridge.Postgres
