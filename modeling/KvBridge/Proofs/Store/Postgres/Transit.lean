import KvBridge.Proofs.Store.Postgres.Refinement

/-!
# Batches on their way to a database and back

A batch of pairs travels as two lists, keys and values, that stand for it whatever rows they meet
and in whatever order they are written (`StandsFor`). A batch of keys comes back as rows in any
order: rows for some of the keys only, rows for other keys, or several rows for one key. The client
puts the values back into the places of the keys (`Realigned`). Both speak of the last pair of a key
in a list (`IsLast`).

* `batchPut_sends`: what a client sends for a batch of pairs;
* `batchGet_realigns`: what a client makes of the rows for a batch of keys.
-/

namespace KvBridge.Postgres

variable {α β : Type} {server : Server β} {pairs rows : List (Bytes × Bytes)} {keys : List Bytes}
  {key value : Bytes}

/-! ## The last pair of a key -/

/-- The value stands beside the last occurrence of the key. -/
def IsLast (pairs : List (Bytes × Bytes)) (key value : Bytes) : Prop :=
  ∃ before after, pairs = before ++ (key, value) :: after ∧ key ∉ after.map Prod.fst

theorem forall_mem_key_ne_iff :
    (∀ p ∈ pairs, (key != p.1) = true) ↔ key ∉ pairs.map Prod.fst := by
  simp only [List.mem_map, not_exists, not_and, bne_iff_ne, ne_eq]
  exact forall₂_congr fun p _ => not_congr eq_comm

/-- Looked up from the end, a key is found with its last value. -/
theorem lookup_reverse_eq_some_iff :
    pairs.reverse.lookup key = some value ↔ IsLast pairs key value := by
  simp only [List.lookup_eq_some_iff, forall_mem_key_ne_iff]
  constructor
  · rintro ⟨after, before, split, others⟩
    refine ⟨before.reverse, after.reverse, ?_, ?_⟩
    · have split := congrArg List.reverse split
      simpa using split
    · rwa [List.map_reverse, List.mem_reverse]
  · rintro ⟨before, after, rfl, others⟩
    refine ⟨after.reverse, before.reverse, by simp, ?_⟩
    rwa [List.map_reverse, List.mem_reverse]

theorem lookup_reverse_eq_none_iff :
    pairs.reverse.lookup key = none ↔ key ∉ pairs.map Prod.fst := by
  rw [List.lookup_eq_none_iff, forall_mem_key_ne_iff, List.map_reverse, List.mem_reverse]

/-! ## Pairs on their way to the database -/

/-- A connected client asks over one statement, and makes something of an answer that is no
error. -/
theorem settles_asked (server : Server β) (q : Query) (f : Answer → α) (now : Reading)
    (config : PostgresConfig) (b : β) :
    (do return f (← ask server q) : ClientCall β α).run.Settles ⟨now, config, true, b⟩
      ((server.execute q b).1.taken.map f) ⟨now, config, true, (server.execute q b).2⟩
      [.statement (q.statement config.table)] := by
  have up : (connected : ClientCall β Unit).run.Settles ⟨now, config, true, b⟩ (.ok ())
      ⟨now, config, true, b⟩ [] := .look _ _
  have asked : (ask server q).run.Settles _ _ _ _ :=
    up.bind_ok (settles_sent server q now config true b)
  cases answer : (server.execute q b).1.taken with
  | error cause =>
    rw [answer] at asked
    exact asked.bind_error
  | ok a =>
    rw [answer] at asked
    exact asked.bind_ok (.done _ _)

/-- Keys and values side by side stand for a batch of pairs: each key of the batch once, with its
last value, so that writing them in any order over any rows does what the batch does. -/
structure StandsFor (pairs : List (Bytes × Bytes)) (keys values : List Bytes) : Prop where
  length : keys.length = values.length
  nodup : keys.Nodup
  mem_iff : ∀ key, key ∈ keys ↔ key ∈ pairs.map Prod.fst
  last : ∀ key value, (key, value) ∈ keys.zip values → IsLast pairs key value
  writes : ∀ (t : RowMap) (sent : List (Bytes × Bytes)), sent.Perm (keys.zip values) →
    t.writeAll sent = t.writeAll pairs

/-- Rows with different keys may be written in any order. -/
theorem RowMap.writeAll_perm {sent : List (Bytes × Bytes)} (h : (pairs.map Prod.fst).Nodup)
    (hs : sent.Perm pairs) (t : RowMap) : t.writeAll sent = t.writeAll pairs := by
  have hr : sent.reverse.Perm pairs := (List.reverse_perm sent).trans hs
  funext k
  rw [writeAll_apply, writeAll_apply, lookup_perm h hr, lookup_reverse h]

theorem zip_lastWrites (pairs : List (Bytes × Bytes)) :
    ((lastWrites pairs).map Prod.fst).zip ((lastWrites pairs).map Prod.snd) = lastWrites pairs := by
  rw [List.zip_map']
  exact List.map_id _

theorem mem_lastWrites_iff {p : Bytes × Bytes} :
    p ∈ lastWrites pairs ↔ IsLast pairs p.1 p.2 := by
  rw [← Table.lookup_eq_some_iff (nodup_lastWrites pairs), lookup_lastWrites,
    lookup_reverse_eq_some_iff]

/-- The last writes of a batch stand for it. -/
theorem standsFor_lastWrites (pairs : List (Bytes × Bytes)) :
    StandsFor pairs ((lastWrites pairs).map Prod.fst) ((lastWrites pairs).map Prod.snd) where
  length := by rw [List.length_map, List.length_map]
  nodup := nodup_lastWrites pairs
  mem_iff key := by
    refine Decidable.not_iff_not.1 ?_
    rw [← lookup_reverse_eq_none_iff, ← lookup_reverse_eq_none_iff,
      lookup_reverse (nodup_lastWrites pairs), lookup_lastWrites]
  last key value h := by
    rw [zip_lastWrites] at h
    exact mem_lastWrites_iff.1 h
  writes t sent h := by
    rw [zip_lastWrites] at h
    rw [RowMap.writeAll_perm (nodup_lastWrites pairs) h, writeAll_lastWrites]

/-- For a batch of pairs, a connected client sends one statement with two lists that stand for the
batch, and answers as the server does. -/
theorem batchPut_sends (server : Server β) (config : PostgresConfig) (now : Reading) (b : β)
    (h : pairs ≠ []) :
    ∃ keys values, StandsFor pairs keys values ∧
      (call server (.batchPut pairs)).run.Settles ⟨now, config, true, b⟩
        ((server.execute (.upsertMany keys values) b).1.taken.map fun _ => ())
        ⟨now, config, true, (server.execute (.upsertMany keys values) b).2⟩
        [.statement ⟨(Query.upsertMany keys values).sql config.table,
          [.byteArray keys, .byteArray values]⟩] := by
  refine ⟨_, _, standsFor_lastWrites pairs, ?_⟩
  have filled : ¬ pairs.isEmpty = true := by rwa [List.isEmpty_iff]
  rw [call, batchPut, if_neg filled]
  exact settles_asked server _ (fun _ => ()) now config b

/-- A batch that writes a key three times, to the server that holds the table. -/
theorem batchPut_sends_of_repeated_key :
    let pairs : List (Bytes × Bytes) := [([1], [2]), ([3], []), ([1], [5]), ([1], [6])]
    let keys : List Bytes := [[1], [3]]
    let values : List Bytes := [[6], []]
    let config : PostgresConfig := ⟨"", "t", none, none, 8⟩
    pairs ≠ [] ∧ StandsFor pairs keys values ∧
      (call Server.table (.batchPut pairs)).run.Settles ⟨7, config, true, .empty⟩ (.ok ())
        ⟨7, config, true, (Server.table.execute (.upsertMany keys values) .empty).2⟩
        [.statement ⟨(Query.upsertMany keys values).sql "t",
          [.byteArray keys, .byteArray values]⟩] := by
  intro pairs keys values config
  have filled : pairs ≠ [] := nofun
  obtain ⟨sentKeys, sentValues, stands, sent⟩ :=
    batchPut_sends Server.table config 7 .empty filled
  have same : sentKeys = keys ∧ sentValues = values := by
    have told := congrArg Timed.Outcome.events ((sent none 0).symm.trans (by rfl :
      (call Server.table (.batchPut pairs)).run.run none 0 ⟨7, config, true, .empty⟩ =
        ⟨_, _, [.statement ⟨_, [.byteArray keys, .byteArray values]⟩]⟩))
    cases told
    exact ⟨rfl, rfl⟩
  obtain ⟨rfl, rfl⟩ := same
  exact ⟨filled, stands, sent⟩

/-! ## Rows on their way back -/

/-- Pairs as the rows of a server. -/
def pairRows (rows : List (Bytes × Bytes)) : List (List Bytes) := rows.map fun p => [p.1, p.2]

/-- In the place of each key stands the value of its last row, or none if it has no row. -/
structure Realigned (keys : List Bytes) (rows : List (Bytes × Bytes))
    (values : List (Option Bytes)) : Prop where
  length : values.length = keys.length
  found : ∀ (i : Nat) key value, keys[i]? = some key →
    (values[i]? = some (some value) ↔ IsLast rows key value)
  missing : ∀ (i : Nat) key, keys[i]? = some key →
    (values[i]? = some none ↔ key ∉ rows.map Prod.fst)

theorem realign_eq (keys : List Bytes) (rows : List (Bytes × Bytes)) :
    realign keys (pairRows rows) = keys.map fun key => rows.reverse.lookup key :=
  List.map_congr_left fun key _ => rowValue?_pairs rows key

theorem getElem?_realign (rows : List (Bytes × Bytes)) {i : Nat} (h : keys[i]? = some key) :
    (realign keys (pairRows rows))[i]? = some (rows.reverse.lookup key) := by
  rw [realign_eq, List.getElem?_map, h, Option.map_some]

theorem realigned_realign (keys : List Bytes) (rows : List (Bytes × Bytes)) :
    Realigned keys rows (realign keys (pairRows rows)) where
  length := List.length_map _
  found i key value h := by
    rw [getElem?_realign rows h, Option.some_inj, lookup_reverse_eq_some_iff]
  missing i key h := by
    rw [getElem?_realign rows h, Option.some_inj, lookup_reverse_eq_none_iff]

/-- The order of rows with different keys makes no difference. -/
theorem realign_perm {rows' : List (Bytes × Bytes)} (once : (rows.map Prod.fst).Nodup)
    (h : rows'.Perm rows) (keys : List Bytes) :
    realign keys (pairRows rows') = realign keys (pairRows rows) := by
  rw [realign_eq, realign_eq]
  refine List.map_congr_left fun key _ => ?_
  rw [lookup_reverse once, lookup_perm once ((List.reverse_perm rows').trans h)]

/-- A connected client reads several keys over one statement, and realigns the rows. -/
theorem settles_batchGet (h : keys ≠ []) {now : Reading} {b : β}
    (answer : (server.execute (.selectMany keys (dbMillis now)) b).1 = .rows (pairRows rows))
    (config : PostgresConfig) :
    (call server (.batchGet keys)).run.Settles ⟨now, config, true, b⟩
      (.ok (realign keys (pairRows rows)))
      ⟨now, config, true, (server.execute (.selectMany keys (dbMillis now)) b).2⟩
      [.statement ((Query.selectMany keys (dbMillis now)).statement config.table)] := by
  have filled : ¬ keys.isEmpty = true := by rwa [List.isEmpty_iff]
  have read : (Postgres.now : ClientCall β Int).run.Settles ⟨now, config, true, b⟩
      (.ok (dbMillis now)) ⟨now, config, true, b⟩ [] := .lift (.look _ _)
  have asked := settles_asked server (.selectMany keys (dbMillis now))
    (fun answer => realign keys answer.toRows) now config b
  rw [answer] at asked
  rw [call, batchGet, if_neg filled]
  exact read.bind_ok asked

/-- For a batch of keys, a connected client makes of the rows that the server replies with, whatever
they are, the values of the keys in their places. Equal keys have equal values. If no two rows have
one key, then the same rows in another order, wherever they come from, make the same values. -/
theorem batchGet_realigns (h : keys ≠ []) {now : Reading} {b : β}
    (answer : (server.execute (.selectMany keys (dbMillis now)) b).1 = .rows (pairRows rows))
    (config : PostgresConfig) :
    ∃ values, Realigned keys rows values ∧
      (∀ i j : Nat, keys[i]? = keys[j]? → values[i]? = values[j]?) ∧
      (call server (.batchGet keys)).run.Settles ⟨now, config, true, b⟩ (.ok values)
        ⟨now, config, true, (server.execute (.selectMany keys (dbMillis now)) b).2⟩
        [.statement ((Query.selectMany keys (dbMillis now)).statement config.table)] ∧
      ((rows.map Prod.fst).Nodup → ∀ {γ : Type} (server' : Server γ) (b' : γ) rows',
        rows'.Perm rows →
        (server'.execute (.selectMany keys (dbMillis now)) b').1 = .rows (pairRows rows') →
        (call server' (.batchGet keys)).run.Settles ⟨now, config, true, b'⟩ (.ok values)
          ⟨now, config, true, (server'.execute (.selectMany keys (dbMillis now)) b').2⟩
          [.statement ((Query.selectMany keys (dbMillis now)).statement config.table)]) := by
  refine ⟨_, realigned_realign keys rows, fun i j same => ?_, settles_batchGet h answer config,
    fun once γ server' b' rows' perm answer' => ?_⟩
  · rw [realign_eq, List.getElem?_map, List.getElem?_map, same]
  · rw [← realign_perm once perm keys]
    exact settles_batchGet h answer' config

/-- Rows for a key that was not asked for and none for one that was, and a key that is asked for
twice; from a script, and in another order from another script. -/
theorem batchGet_realigns_of_stranger :
    let keys : List Bytes := [[1], [2], [1], [3]]
    let rows : List (Bytes × Bytes) := [([4], [9]), ([3], []), ([1], [5])]
    let script : Script := ⟨true, [.rows (pairRows rows)]⟩
    let shuffled : Script := ⟨true, [.rows (pairRows rows.reverse), .failed "later"]⟩
    let config : PostgresConfig := ⟨"", "t", none, none, 8⟩
    keys ≠ [] ∧
      (Server.scripted.execute (.selectMany keys 7) script).1 = .rows (pairRows rows) ∧
      let values := [some [5], none, some [5], some []]
      Realigned keys rows values ∧ (rows.map Prod.fst).Nodup ∧
        (call Server.scripted (.batchGet keys)).run.Settles ⟨7, config, true, script⟩ (.ok values)
          ⟨7, config, true, ⟨true, []⟩⟩ [.statement ((Query.selectMany keys 7).statement "t")] ∧
        (call Server.scripted (.batchGet keys)).run.Settles ⟨7, config, true, shuffled⟩ (.ok values)
          ⟨7, config, true, ⟨true, [.failed "later"]⟩⟩
          [.statement ((Query.selectMany keys 7).statement "t")] := by
  intro keys rows script shuffled config
  have filled : keys ≠ [] := nofun
  have once : (rows.map Prod.fst).Nodup := by decide
  have answer : (Server.scripted.execute (.selectMany keys (dbMillis 7)) script).1 =
      .rows (pairRows rows) := rfl
  obtain ⟨values, realigned, -, first, again⟩ := batchGet_realigns filled answer config
  have same : values = [some [5], none, some [5], some []] := by
    have run := (first none 0).symm.trans (by rfl :
      (call Server.scripted (.batchGet keys)).run.run none 0 ⟨7, config, true, script⟩ =
        ⟨some (.ok [some [5], none, some [5], some []], 0), _, _⟩)
    cases run
    rfl
  subst same
  exact ⟨filled, rfl, realigned, once, first,
    again once Server.scripted shuffled rows.reverse (List.reverse_perm rows) rfl⟩

end KvBridge.Postgres
