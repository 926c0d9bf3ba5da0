import KvBridge.Proofs.Store.Interchange
import KvBridge.Proofs.Store.Postgres.Batches
import KvBridge.Proofs.Store.Postgres.Forms
import KvBridge.Proofs.Timed.Instant

/-!
# The store in a database answers like the store in memory

The rows of a plain server are the entries of a map, with their deadlines in the milliseconds that
the database counts (`Entries.rows`). A connected client serves each command as the map does
(`succeeds_call`): whether a row was touched tells whether the condition of a conditional write was
met, for no row is touched unless the statement finds the live value that it expects. So the
commands of a run are answered as by the store in memory (`play_driver_eq_memory`).

The database has signed milliseconds, so deadlines stop at the last of them. This changes nothing
as long as the clock has not come to it (`dbMillis_lt_iff`).
-/

namespace KvBridge

open Postgres

/-! ## Entries as rows -/

namespace Postgres

/-- The database counts moments up to a last one. -/
def lastMillis : Nat := 9223372036854775807

/-- What lies after a moment still does so as the database counts. -/
theorem dbMillis_lt_iff {now : Reading} (h : now.toNat < lastMillis) (moment : Reading) :
    dbMillis now < dbMillis moment ↔ now < moment := by
  rw [UInt64.lt_iff_toNat_lt]
  simp only [dbMillis, lastMillis] at *
  omega

end Postgres

/-- An entry as a row. -/
def Entry.row (e : Entry) : Row := ⟨e.value, e.expiresAt.map dbMillis⟩

theorem Entry.isLive_row {now : Reading} (h : now.toNat < lastMillis) (e : Entry) :
    e.row.isLive (dbMillis now) = e.isLive now := by
  obtain ⟨value, _ | moment⟩ := e
  · rfl
  · simp [row, Row.isLive, isLive, dbMillis_lt_iff h]

theorem Entry.row_written (value : Bytes) (ttl : Option Duration) (now : Reading) :
    (Entry.written value ttl now).row = ⟨value, ttl.map fun d => dbMillis (now.expiresAt d)⟩ := by
  cases ttl <;> rfl

/-- Entries as rows. -/
def Entries.rows (es : Entries) : RowMap := fun key => (es key).map Entry.row

namespace Entries

theorem live?_rows {now : Reading} (h : now.toNat < lastMillis) (es : Entries) (key : Bytes) :
    es.rows.live? (dbMillis now) key = es.live? now key := by
  simp only [RowMap.live?, rows, live?]
  cases es key with
  | none => rfl
  | some e =>
    simp only [Option.map_some, e.isLive_row h]
    rfl

theorem rows_write (es : Entries) (key : Bytes) (e : Entry) :
    (es.write key e).rows = es.rows.write key e.row := by
  funext k
  simp only [rows, write, RowMap.write]
  split <;> rfl

theorem rows_foldl_write (now : Reading) (ps : List (Bytes × Bytes)) (es : Entries) :
    (ps.foldl (fun es p => es.write p.1 (.written p.2 none now)) es).rows =
      es.rows.writeAll ps := by
  induction ps generalizing es with
  | nil => rfl
  | cons p ps ih =>
    rw [List.foldl_cons, ih, rows_write, Entry.row_written]
    rfl

theorem rows_foldl_erase (keys : List Bytes) (es : Entries) :
    (keys.foldl erase es).rows = es.rows.eraseAll keys := by
  induction keys generalizing es with
  | nil =>
    funext k
    simp [RowMap.eraseAll]
  | cons key keys ih =>
    funext k
    rw [List.foldl_cons, ih]
    by_cases hk : k = key <;> simp [RowMap.eraseAll, rows, erase, hk]

end Entries

namespace Postgres

variable {α β γ : Type} {server : Server β} {view : β → RowMap} {now : Reading} {t : RowMap}

/-! ## Programs of a connected client -/

/-- On a client that is connected to a server with certain rows, a program succeeds at once, and its
answer and the rows that it leaves have a property. -/
def Succeeds (view : β → RowMap) (now : Reading) (t : RowMap) (x : ClientCall β α)
    (post : α → RowMap → Prop) : Prop :=
  ∀ config b, view b = t → ∃ a b' evs,
    x.run.Settles ⟨now, config, true, b⟩ (.ok a) ⟨now, config, true, b'⟩ evs ∧ post a (view b')

/-- What a client makes of an answer. -/
def Answer.taken : Answer → Except Cause Answer
  | .failed message => .error (.text ("error returned from database: " ++ message))
  | a => .ok a

/-- A query is sent as a statement, and its answer is taken. -/
theorem settles_sent (server : Server β) (q : Query) (now : Reading) (config : PostgresConfig)
    (isConnected : Bool) (b : β) :
    (send server q).run.Settles ⟨now, config, isConnected, b⟩ (server.execute q b).1.taken
      ⟨now, config, isConnected, (server.execute q b).2⟩
      [.statement (q.statement config.table)] := by
  refine Timed.Settles.bind (.look _ _) (.bind (.tell _ _) (.bind (.act _ _)
    (?_ : Timed.Settles _ _ _ _ [])))
  cases (server.execute q b).1 <;> exact .done _ _

/-- An answer that is no error is passed on. -/
theorem settles_send {q : Query} {b : β} (hn : ∀ message, (server.execute q b).1 ≠ .failed message)
    (config : PostgresConfig) (now : Reading) :
    (send server q).run.Settles ⟨now, config, true, b⟩ (.ok (server.execute q b).1)
      ⟨now, config, true, (server.execute q b).2⟩ [.statement (q.statement config.table)] := by
  have passed : (server.execute q b).1.taken = .ok (server.execute q b).1 := by
    cases ha : (server.execute q b).1 with
    | failed message => exact absurd ha (hn message)
    | rows | affected => rfl
  exact passed ▸ settles_sent server q now config true b

namespace Succeeds

theorem pure {post : α → RowMap → Prop} (a : α) (h : post a t) :
    Succeeds view now t (Pure.pure a) post :=
  fun _ b hb => ⟨a, b, [], .done _ _, hb ▸ h⟩

theorem mono {x : ClientCall β α} {mid post : α → RowMap → Prop} (hx : Succeeds view now t x mid)
    (h : ∀ a t', mid a t' → post a t') : Succeeds view now t x post := by
  intro config b hb
  obtain ⟨a, b', evs, hx, hm⟩ := hx config b hb
  exact ⟨a, b', evs, hx, h _ _ hm⟩

theorem bind {x : ClientCall β α} {f : α → ClientCall β γ} {mid : α → RowMap → Prop}
    {post : γ → RowMap → Prop} (hx : Succeeds view now t x mid)
    (hf : ∀ a t', mid a t' → Succeeds view now t' (f a) post) :
    Succeeds view now t (x >>= f) post := by
  intro config b hb
  obtain ⟨a, b₁, evs, hx, hm⟩ := hx config b hb
  obtain ⟨c, b₂, evs', hf, hp⟩ := hf a _ hm config b₁ rfl
  exact ⟨c, b₂, _, hx.bind_ok hf, hp⟩

theorem dbNow : Succeeds view now t Postgres.now fun n t' => n = dbMillis now ∧ t' = t :=
  fun _ b hb => ⟨_, b, _, .lift (.look _ _), rfl, hb⟩

theorem deadline (ttl : Option Duration) : Succeeds view now t (Postgres.deadline ttl)
    fun e t' => e = ttl.map (fun d => dbMillis (now.expiresAt d)) ∧ t' = t :=
  fun _ b hb => ⟨_, b, _, .lift (.look _ _), rfl, hb⟩

theorem connected : Succeeds view now t Postgres.connected fun _ t' => t' = t :=
  fun _ b hb => ⟨(), b, _, .look _ _, hb⟩

/-- The server does what the statement means, which must not be to refuse it. -/
theorem ask (hs : server.IsPlain view) {q : Query} (post : Answer → RowMap → Prop)
    (h : ∀ a t', q.Means t a t' → (∀ message, a ≠ .failed message) ∧ post a t') :
    Succeeds view now t (Postgres.ask server q) post := by
  refine connected.bind fun _ _ ht => ht ▸ ?_
  rintro config b rfl
  obtain ⟨hn, hp⟩ := h _ _ (hs q b)
  exact ⟨_, _, _, settles_send hn config now, hp⟩

/-- An answer that is not looked at. -/
theorem ask_unit (hs : server.IsPlain view) {q : Query} {post : Unit → RowMap → Prop}
    (h : ∀ a t', q.Means t a t' → (∀ message, a ≠ .failed message) ∧ post () t') :
    Succeeds view now t (do let _ ← Postgres.ask server q) post :=
  have asked : Succeeds view now t (Postgres.ask server q) fun _ => post () := ask hs _ h
  asked.bind fun _ _ hp => .pure () hp

end Succeeds

/-! ## One command -/

theorem succeeds_get (hs : server.IsPlain view) (key : Bytes) :
    Succeeds view now t (get server key) fun v t' =>
      v = t.live? (dbMillis now) key ∧ t' = t := by
  refine Succeeds.dbNow.bind fun n t' hn => ?_
  obtain ⟨rfl, rfl⟩ := hn
  refine (Succeeds.ask hs (fun a t' => a.toRows.head?.bind List.head? = _ ∧ t' = _)
    fun a t' hq => ?_).bind fun a t' ha => .pure _ ha
  cases hq with
  | select =>
    refine ⟨nofun, ?_, rfl⟩
    cases RowMap.live? _ _ _ <;> rfl

theorem succeeds_upsert (hs : server.IsPlain view) (key value : Bytes) (ttl : Option Duration) :
    Succeeds view now t (upsert server key value ttl) fun _ t' =>
      t' = t.write key ⟨value, ttl.map fun d => dbMillis (now.expiresAt d)⟩ := by
  refine (Succeeds.deadline ttl).bind fun e t' he => ?_
  obtain ⟨rfl, rfl⟩ := he
  refine Succeeds.ask_unit hs fun a t' hq => ?_
  cases hq with
  | upsert => exact ⟨nofun, rfl⟩

/-- The statement touches one row, and writes it, exactly if the live value is the expected one. -/
theorem succeeds_swap (hs : server.IsPlain view) (key : Bytes) (expected : Option Bytes)
    (new : Bytes) (expiresAt : Option Int) (now : Reading) :
    Succeeds view now t (ask server (match expected with
      | none => .insertUnlessLive key new expiresAt (dbMillis now)
      | some old => .updateIfLive key new expiresAt old (dbMillis now))) fun a t' =>
        (a.count = 1 ↔ t.live? (dbMillis now) key = expected) ∧
          t' = (if t.live? (dbMillis now) key = expected then t.write key ⟨new, expiresAt⟩
            else t) := by
  refine Succeeds.ask hs _ fun a t' hq => ?_
  cases expected with
  | none =>
    cases hq with
    | inserted _ _ _ _ free =>
      have hv := (t.live?_eq_none_iff ..).2 free
      exact ⟨nofun, iff_of_true rfl hv, (if_pos hv).symm⟩
    | notInserted _ _ _ _ row found taken =>
      have hv : t.live? (dbMillis now) key ≠ none := fun h =>
        taken ((t.live?_eq_none_iff ..).1 h row found)
      exact ⟨nofun, iff_of_false nofun hv, (if_neg hv).symm⟩
  | some old =>
    cases hq with
    | updated _ _ _ _ row found live =>
      have hv := (t.live?_eq_some_iff ..).2 ⟨row, found, live, rfl⟩
      exact ⟨nofun, iff_of_true rfl hv, (if_pos hv).symm⟩
    | notUpdated _ _ _ _ _ missing =>
      have hv : t.live? (dbMillis now) key ≠ some old := fun h => by
        obtain ⟨row, found, live, heq⟩ := (t.live?_eq_some_iff ..).1 h
        exact missing row found live heq
      exact ⟨nofun, iff_of_false nofun hv, (if_neg hv).symm⟩

theorem succeeds_compareAndSwap (hs : server.IsPlain view) (key : Bytes)
    (expected : Option Bytes) (new : Bytes) (ttl : Option Duration) :
    Succeeds view now t (compareAndSwap server key expected new ttl) fun s t' =>
      if t.live? (dbMillis now) key = expected then
        s = ⟨expected, true⟩ ∧
          t' = t.write key ⟨new, ttl.map fun d => dbMillis (now.expiresAt d)⟩
      else s = ⟨t.live? (dbMillis now) key, false⟩ ∧ t' = t := by
  refine Succeeds.connected.bind fun _ t₁ h₁ => Succeeds.dbNow.bind fun n t₂ h₂ =>
    (Succeeds.deadline ttl).bind fun e t₃ h₃ => ?_
  obtain ⟨rfl, h₂⟩ := h₂
  obtain ⟨rfl, h₃⟩ := h₃
  rw [h₃, h₂, h₁]
  refine (succeeds_swap hs key expected new _ now).bind fun a t' ha => ?_
  obtain ⟨hcount, rfl⟩ := ha
  by_cases hv : t.live? (dbMillis now) key = expected
  · simp only [hv, hcount.2 hv, if_true]
    exact .pure _ ⟨rfl, rfl⟩
  · simp only [hv, mt hcount.1 hv, if_false]
    refine (succeeds_get hs key).bind fun v t' hg => ?_
    obtain ⟨rfl, rfl⟩ := hg
    exact .pure _ ⟨rfl, rfl⟩

theorem succeeds_batchGet (hs : server.IsPlain view) (keys : List Bytes) :
    Succeeds view now t (batchGet server keys) fun vs t' =>
      vs = keys.map (t.live? (dbMillis now)) ∧ t' = t := by
  unfold batchGet
  split
  · rename_i hk
    exact .pure _ ⟨by rw [List.isEmpty_iff.1 hk]; rfl, rfl⟩
  refine Succeeds.dbNow.bind fun n t' hn => ?_
  obtain ⟨rfl, rfl⟩ := hn
  refine (Succeeds.ask hs (fun a t₁ => realign keys a.toRows = _ ∧ t₁ = _)
    fun a t₁ hq => ?_).bind fun a t₁ ha => .pure _ ha
  cases hq with
  | selectMany _ _ found once live =>
    refine ⟨nofun, ?_, rfl⟩
    rw [Answer.toRows, realign_pairs once, List.map_inj_left]
    refine fun key hk => Option.ext fun v => ?_
    rw [Table.lookup_eq_some_iff once, live]
    exact and_iff_right hk

theorem succeeds_batchPut (hs : server.IsPlain view) (ps : List (Bytes × Bytes)) :
    Succeeds view now t (batchPut server ps) fun _ t' => t' = t.writeAll ps := by
  unfold batchPut
  split
  · rename_i hp
    exact .pure _ (by rw [List.isEmpty_iff.1 hp]; rfl)
  refine Succeeds.ask_unit hs fun a t' hq => ?_
  cases hq with
  | upsertMany _ _ length once =>
    refine ⟨nofun, ?_⟩
    rw [List.zip_map', ← writeAll_lastWrites t ps]
    simp
  | refused _ _ message twice => exact absurd (nodup_lastWrites ps) twice
  | ragged _ _ _ _ length => exact absurd (by rw [List.length_map, List.length_map]) length

theorem succeeds_batchDelete (hs : server.IsPlain view) (keys : List Bytes) :
    Succeeds view now t (batchDelete server keys) fun _ t' => t' = t.eraseAll keys := by
  unfold batchDelete
  split
  · rename_i hk
    refine .pure _ ?_
    rw [List.isEmpty_iff.1 hk]
    funext k
    simp [RowMap.eraseAll]
  refine Succeeds.ask_unit hs fun a t' hq => ?_
  cases hq with
  | deleteMany _ n => exact ⟨by simp, rfl⟩

theorem succeeds_connect : Succeeds view now t (connect server) fun _ t' => t' = t :=
  fun _ b hb => ⟨(), b, _, .bind_ok (.lift (.look _ _)) (.done _ _), hb⟩

/-- A client that is connected serves each command as the map of entries does, but the one that
closes it. -/
theorem succeeds_call (hs : server.IsPlain view) (hn : now.toNat < lastMillis) (es : Entries)
    {c : Command} (hc : c ≠ .close) : Succeeds view now es.rows (call server c) fun r t' =>
      r = (es.serve c now).1 ∧ t' = (es.serve c now).2.rows := by
  have written (key value : Bytes) (ttl : Option Duration) :
      (es.write key (.written value ttl now)).rows =
        es.rows.write key ⟨value, ttl.map fun d => dbMillis (now.expiresAt d)⟩ := by
    rw [Entries.rows_write, Entry.row_written]
  cases c with
  | close => exact absurd rfl hc
  | connect => exact succeeds_connect.mono fun _ _ ht => ⟨rfl, ht⟩
  | ready =>
    refine Succeeds.ask_unit hs fun a t' hq => ?_
    cases hq with
    | ping rows => exact ⟨by simp, rfl, rfl⟩
  | get key =>
    refine (succeeds_get hs key).mono fun v t' h => ?_
    rw [es.live?_rows hn] at h
    exact h
  | put key value =>
    exact (succeeds_upsert hs key value none).mono fun _ _ ht => ⟨rfl, ht.trans (written ..).symm⟩
  | putWithTtl key value ttl =>
    exact (succeeds_upsert hs key value (some ttl)).mono fun _ _ ht =>
      ⟨rfl, ht.trans (written ..).symm⟩
  | compareAndSwap key expected new ttl =>
    refine (succeeds_compareAndSwap hs key expected new ttl).mono fun s t' h => ?_
    rw [es.live?_rows hn, ← written] at h
    simp only [Entries.serve]
    by_cases hv : es.live? now key = expected
    · simp only [hv, if_true] at h ⊢
      exact h
    · simp only [hv, if_false] at h ⊢
      exact h
  | delete key =>
    refine Succeeds.ask_unit hs fun a t' hq => ?_
    cases hq with
    | delete => exact ⟨by simp, rfl, (es.rows_foldl_erase [key]).symm⟩
  | batchGet keys =>
    refine (succeeds_batchGet hs keys).mono fun vs t' h => ⟨h.1.trans ?_, h.2⟩
    exact List.map_congr_left fun key _ => es.live?_rows hn key
  | batchPut pairs =>
    exact (succeeds_batchPut hs pairs).mono fun _ _ ht =>
      ⟨rfl, ht.trans (Entries.rows_foldl_write now pairs es).symm⟩
  | batchDelete keys =>
    exact (succeeds_batchDelete hs keys).mono fun _ _ ht =>
      ⟨rfl, ht.trans (es.rows_foldl_erase keys).symm⟩

end Postgres

/-! ## Runs -/

namespace Postgres

variable {β : Type} {server : Server β} {view : β → RowMap}

/-- A client and a store in memory answer a run alike, from a server and a store that hold the
entries of one map on. -/
theorem play_of_holds (hs : server.IsPlain view) (config : PostgresConfig) (atomicSwap : Bool)
    (t : Tick) {run : CommandRun} (hc : ∀ step ∈ run, step.2 ≠ .close)
    (hm : (run.map Prod.fst).Pairwise (· ≤ ·))
    (hn : ∀ moment ∈ run.map Prod.fst, moment.toNat < lastMillis) {es : Entries} {b : β}
    (hb : view b = es.rows) {m : Memory} (ho : m.isOpen = true) {now : Reading}
    (hh : m.Holds es now) (hl : ∀ moment ∈ run.map Prod.fst, now ≤ moment) :
    (driver server).play t run ⟨config, true, b⟩ = (Memory.driver atomicSwap).play t run m ∧
      ∀ ended ∈ (driver server).play t run ⟨config, true, b⟩,
        ∃ r, ended.2 = some (.ok r, t) := by
  induction run generalizing es b m now with
  | nil => exact ⟨rfl, nofun⟩
  | cons step run ih =>
    obtain ⟨moment, c⟩ := step
    rw [List.map_cons, List.pairwise_cons] at hm
    simp only [List.map_cons, List.forall_mem_cons] at hc hn hl
    obtain ⟨r, b', evs, hcall, hr, hb'⟩ := succeeds_call hs hn.1 es hc.1 config b hb
    have hcl : ((driver server).call c).run none t ⟨moment, config, true, b⟩ = _ := hcall none t
    have hh' := hh.later hl.1
    obtain ⟨hr', hs'⟩ := hh'.serve c
    have hx : ∃ m', m.exec c moment = (.ok r, m') ∧ m'.isOpen = true ∧
        m'.Holds (es.serve c moment).2 moment := by
      by_cases hcn : c = .connect
      · subst hcn
        exact ⟨{ m with isOpen := true }, rfl, rfl, hh'.of_entries rfl⟩
      · refine ⟨_, ?_, (Memory.isOpen_serve m c moment).trans ho, hs'⟩
        rw [Memory.exec_of_open hcn hc.1 ho, hr', hr]
    obtain ⟨m', hx, ho', hm'⟩ := hx
    obtain ⟨h1, h2⟩ := ih hc.2 hm.2 hn.2 hb' ho' hm' hm.1
    have hmem : ((Memory.driver atomicSwap).call c).run none t ⟨moment, m⟩ =
        ⟨some (.ok r, t), ⟨moment, m'⟩, []⟩ := by
      simp [Memory.driver, Clocked.driver, Timed.act, Timed.run, hx]
    refine ⟨?_, ?_⟩
    · simp only [Driver.play, hcl, hmem, h1]
    · simp only [Driver.play, hcl, List.forall_mem_cons]
      exact ⟨⟨r, rfl⟩, h2⟩

/-- A client that is connected to a plain server without rows answers every run of commands like an
open store in memory without entries, and answers each of them. The readings must not decrease nor
come to the last moment that the database counts. Nothing depends on the settings of the client,
its table among them. -/
theorem play_driver_eq_memory (hs : server.IsPlain view) (config : PostgresConfig) {b : β}
    (hb : view b = .empty) (atomicSwap : Bool) (t : Tick) {run : CommandRun}
    (hc : ∀ step ∈ run, step.2 ≠ .close) (hm : (run.map Prod.fst).Pairwise (· ≤ ·))
    (hn : ∀ moment ∈ run.map Prod.fst, moment.toNat < lastMillis) :
    (driver server).play t run ⟨config, true, b⟩ =
        (Memory.driver atomicSwap).play t run ⟨.empty, true⟩ ∧
      ∀ ended ∈ (driver server).play t run ⟨config, true, b⟩, ∃ r, ended.2 = some (.ok r, t) := by
  have hh : Memory.Holds ⟨.empty, true⟩ .empty 0 := (Memory.Holds.empty 0).of_entries rfl
  have hb : view b = Entries.rows .empty := hb
  exact play_of_holds hs config atomicSwap t hc hm hn hb rfl hh fun _ _ => UInt64.zero_le

/-- Conditional writes on an absent, a live and an expired row, with the value that is expected and
with another one; a batch that writes a key twice and one that reads a key twice; and a deadline
beyond the last moment, one millisecond before that moment. -/
theorem play_driver_eq_memory_near_last_moment :
    let run : CommandRun := [
      (10, .compareAndSwap [1] none [7] (some ⟨2000000⟩)), (11, .compareAndSwap [1] none [8] none),
      (11, .compareAndSwap [1] (some [7]) [9] (some ⟨1000000⟩)),
      (12, .compareAndSwap [1] (some [9]) [8] none), (12, .compareAndSwap [1] none [6] none),
      (13, .batchPut [([1], [2]), ([3], [4]), ([1], [5])]), (13, .batchGet [[3], [1], [2], [3]]),
      (9223372036854775806, .putWithTtl [1] [8] ⟨9000000⟩), (9223372036854775806, .get [1]),
      (9223372036854775806, .batchDelete [[3], [3]]), (9223372036854775806, .batchGet [[3], [1]])]
    Server.table.IsPlain Rows.view ∧ Rows.view .empty = .empty ∧
      (∀ step ∈ run, step.2 ≠ .close) ∧ (run.map Prod.fst).Pairwise (· ≤ ·) ∧
      (∀ moment ∈ run.map Prod.fst, moment.toNat < lastMillis) ∧
      (driver Server.table).play 0 run ⟨⟨"", "t", none, none, 8⟩, true, .empty⟩ = [
        ⟨.compareAndSwap [1] none [7] (some ⟨2000000⟩), some (.ok ⟨none, true⟩, 0)⟩,
        ⟨.compareAndSwap [1] none [8] none, some (.ok ⟨some [7], false⟩, 0)⟩,
        ⟨.compareAndSwap [1] (some [7]) [9] (some ⟨1000000⟩), some (.ok ⟨some [7], true⟩, 0)⟩,
        ⟨.compareAndSwap [1] (some [9]) [8] none, some (.ok ⟨none, false⟩, 0)⟩,
        ⟨.compareAndSwap [1] none [6] none, some (.ok ⟨none, true⟩, 0)⟩,
        ⟨.batchPut [([1], [2]), ([3], [4]), ([1], [5])], some (.ok (), 0)⟩,
        ⟨.batchGet [[3], [1], [2], [3]], some (.ok [some [4], some [5], none, some [4]], 0)⟩,
        ⟨.putWithTtl [1] [8] ⟨9000000⟩, some (.ok (), 0)⟩, ⟨.get [1], some (.ok (some [8]), 0)⟩,
        ⟨.batchDelete [[3], [3]], some (.ok (), 0)⟩,
        ⟨.batchGet [[3], [1]], some (.ok [none, some [8]], 0)⟩] := by
  intro run
  have hc : ∀ step ∈ run, step.2 ≠ .close := by decide
  have hm : (run.map Prod.fst).Pairwise (· ≤ ·) := by decide
  have hn : ∀ moment ∈ run.map Prod.fst, moment.toNat < lastMillis := by
    simp [run, lastMillis]
  have hb : Rows.view .empty = .empty := rfl
  have h := play_driver_eq_memory Server.isPlain_table ⟨"", "t", none, none, 8⟩ hb true 0 hc hm hn
  exact ⟨Server.isPlain_table, hb, hc, hm, hn, h.1.trans rfl⟩

end Postgres

end KvBridge
