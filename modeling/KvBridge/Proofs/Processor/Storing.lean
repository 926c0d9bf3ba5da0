import KvBridge.Proofs.Identifiers
import KvBridge.Proofs.Processor.Agreement
import KvBridge.Proofs.Processor.Resolution
import KvBridge.Writer

/-!
# A writer stores every message

A writer takes the key of a message from its metadata and draws an identifier if there is none, so
the keys of a run of calls are those of all its messages one after the other, with the drawn numbers
among them (`Writer.keysFrom`). One call over the store in memory leaves under each of its keys the
content of the last message with that key, and touches no other key (`Writer.Stored`). Two messages
that both had an identifier drawn never have one key (`Writer.keysFrom_ne`), as long as the numbers
have room in 64 bits.

* `Writer.resolveFrom_eq`: the resolver of keys, which draws;
* `Writer.settles_write`: one call;
* `Writer.write_stores_every_message`: a call after others.
-/

namespace KvBridge

open Resolver (untagged)

namespace Writer

/-! ## Keys -/

/-- The keys of messages, when the next number to be drawn is `n`. -/
def keysFrom (stem : String) : (n : Nat) → List Message → List Bytes
  | _, [] => []
  | n, m :: ms =>
    match m.tag? "id" with
    | some text => Utf8.encode text :: keysFrom stem n ms
    | none => Utf8.encode (stem ++ "-" ++ toString n) :: keysFrom stem (n + 1) ms

section Keys

variable {stem : String} {n : Nat} {m m' : Message} {ms : List Message} {text : String}

theorem keysFrom_of_some (h : m.tag? "id" = some text) :
    keysFrom stem n (m :: ms) = Utf8.encode text :: keysFrom stem n ms := by
  rw [keysFrom, h]

theorem keysFrom_of_none (h : m.tag? "id" = none) : keysFrom stem n (m :: ms) =
    Utf8.encode (stem ++ "-" ++ toString n) :: keysFrom stem (n + 1) ms := by
  rw [keysFrom, h]

theorem untagged_of_some (h : m.tag? "id" = some text) :
    untagged "id" (m :: ms) = untagged "id" ms := by
  rw [untagged, List.countP_cons, h]
  rfl

theorem untagged_of_none (h : m.tag? "id" = none) :
    untagged "id" (m :: ms) = untagged "id" ms + 1 := by
  rw [untagged, List.countP_cons, h]
  rfl

theorem keysFrom_append (stem : String) (n : Nat) (ms ns : List Message) :
    keysFrom stem n (ms ++ ns) =
      keysFrom stem n ms ++ keysFrom stem (n + untagged "id" ms) ns := by
  induction ms generalizing n with
  | nil => rfl
  | cons m ms ih =>
    cases h : m.tag? "id" with
    | some text =>
      rw [List.cons_append, keysFrom_of_some h, keysFrom_of_some h, untagged_of_some h, ih,
        List.cons_append]
    | none =>
      rw [List.cons_append, keysFrom_of_none h, keysFrom_of_none h, untagged_of_none h, ih,
        List.cons_append, Nat.add_right_comm n 1, Nat.add_assoc]

theorem length_keysFrom (stem : String) (n : Nat) (ms : List Message) :
    (keysFrom stem n ms).length = ms.length := by
  induction ms generalizing n with
  | nil => rfl
  | cons m ms ih =>
    cases h : m.tag? "id" with
    | some text => rw [keysFrom_of_some h, List.length_cons, List.length_cons, ih]
    | none => rw [keysFrom_of_none h, List.length_cons, List.length_cons, ih]

/-- A message without an entry has the number that is next after those before it. -/
theorem getElem?_keysFrom {i : Nat} (hm : ms[i]? = some m) (drawn : m.tag? "id" = none) :
    (keysFrom stem n ms)[i]? =
      some (Utf8.encode (stem ++ "-" ++ toString (n + untagged "id" (ms.take i)))) := by
  have hi : i < ms.length := (List.getElem?_eq_some_iff.1 hm).1
  have hl : (keysFrom stem n (ms.take i)).length = i := by
    rw [length_keysFrom, List.length_take, Nat.min_eq_left (Nat.le_of_lt hi)]
  have hd : ms.drop i = m :: ms.drop (i + 1) := by
    rw [List.drop_eq_getElem_cons hi, (List.getElem_eq_iff hi).2 hm]
  conv => lhs; rw [← List.take_append_drop i ms, keysFrom_append, hd, keysFrom_of_none drawn]
  rw [List.getElem?_append_right (Nat.le_of_eq hl), hl, Nat.sub_self, List.getElem?_cons_zero]

/-- Two messages without an entry have different keys. -/
theorem keysFrom_ne {i j : Nat} (hij : i < j) (hm : ms[i]? = some m) (hm' : ms[j]? = some m')
    (drawn : m.tag? "id" = none) (drawn' : m'.tag? "id" = none) :
    (keysFrom stem n ms)[i]? ≠ (keysFrom stem n ms)[j]? := by
  rw [getElem?_keysFrom hm drawn, getElem?_keysFrom hm' drawn']
  intro h
  have same := IdSource.name_injective stem (Utf8.encode_injective (Option.some.inj h))
  -- The first message counts among those before the second one, but not among those before itself.
  have upTo : untagged "id" (ms.take (i + 1)) = untagged "id" (ms.take i) + 1 := by
    rw [List.take_add_one, hm, untagged, List.countP_append, Option.toList_some,
      List.countP_singleton, drawn]
    rfl
  have within : untagged "id" (ms.take (i + 1)) ≤ untagged "id" (ms.take j) :=
    (List.take_sublist_take_left hij).countP_le
  omega

/-- The resolver of keys answers with them, and goes on to the number after the last one. -/
theorem resolveFrom_eq (stem : String) (room : n + untagged "id" ms ≤ UInt64.size) (index : Nat) :
    (Resolver.metadata "id" (some ⟨stem, UInt64.ofNat n⟩)).resolveFrom index ms =
      (.ok (keysFrom stem n ms),
        .metadata "id" (some ⟨stem, UInt64.ofNat (n + untagged "id" ms)⟩)) := by
  induction ms generalizing n index with
  | nil => rfl
  | cons m ms ih =>
    cases h : m.tag? "id" with
    | some text =>
      rw [untagged_of_some h] at room ⊢
      simp only [Resolver.resolveFrom, Resolver.resolve, h, ih room, keysFrom_of_some h]
      rfl
    | none =>
      rw [untagged_of_none h] at room ⊢
      have next : n + 1 + untagged "id" ms = n + (untagged "id" ms + 1) := by omega
      simp only [Resolver.resolveFrom, Resolver.resolve, h,
        IdSource.draw_eq stem (show n < UInt64.size by omega), ih (n := n + 1) (by omega),
        keysFrom_of_none h, next]
      rfl

end Keys

end Writer

/-! ## The store after a batch -/

namespace Memory

/-- Of the pairs of a key the last one stays, and never expires. -/
theorem find?_puts (now : Reading) (ps : List (Bytes × Bytes)) (m : Memory) (key : Bytes) :
    (ps.foldl (fun m p => m.store p.1 p.2 none now) m).entries.find? key =
      ((ps.reverse.lookup key).map fun v => (⟨v, none⟩ : Entry)).or (m.entries.find? key) := by
  induction ps generalizing m with
  | nil => rfl
  | cons p ps ih =>
    rw [List.foldl_cons, ih, List.reverse_cons, List.lookup_append, store, Table.find?_insert]
    cases ps.reverse.lookup key with
    | some v => rfl
    | none =>
      obtain ⟨k, v⟩ := p
      rw [Table.lookup_cons_eq]
      split <;> rfl

/-- An intact link has a client that can be set up, and that leaves the entries alone. -/
theorem wakes {conn : Connection (Clocked Memory)} {atomicSwap : Bool}
    (hd : conn.driver = Clocked.driver "memory" atomicSwap exec) {l : Link (Clocked Memory)}
    (hl : l.Intact (fun _ => True) fun m => m.isOpen = true) :
    ∃ l', Link.Wakes conn (fun m => m.isOpen = true) l l' ∧
      l'.store.store.entries = l.store.store.entries := by
  cases hp : l.phase with
  | connected =>
    exact ⟨l, .refl ⟨hp, hl.isOpen hp⟩, rfl⟩
  | disconnected =>
    have h := Connection.settles_acquire (hd ▸ Clocked.answers_driver "memory" atomicSwap exec)
      (rfl : ({} : Context).cancelledAt = none) hp rfl rfl
    exact ⟨_, ⟨⟨_, h⟩, ⟨rfl, rfl⟩, rfl⟩, rfl⟩

end Memory

/-! ## One call -/

/-- A batch that resolves is written with one command. -/
theorem Processor.settles_put_of_resolved {δ : Type} {conn : Connection δ} {ctx : Context}
    {batch : List Message} (hb : batch ≠ []) {keyOf keyOf' valueOf valueOf' : Resolver}
    {keys values : List Bytes} (hk : keyOf.resolveAll batch = (.ok keys, keyOf'))
    (hv : valueOf.resolveAll batch = (.ok values, valueOf')) {l l' : Link δ} {es : List Event}
    (given : Call.Settles (conn.perform ctx (.batchPut (keys.zip values))
      (.transport "batch_put" none)) l (.ok ()) l' es) :
    Call.Settles ((⟨conn, .put⟩ : Processor δ).process ctx batch) ⟨⟨keyOf, some valueOf⟩, l⟩
      (.ok (List.zipWith Message.setContent batch values)) ⟨⟨keyOf', some valueOf'⟩, l'⟩
      (es ++ [.ended "processor" "put" "ok"]) := by
  have found := Processor.settles_keys hk (some valueOf) l
  have contents := Processor.settles_contents hv keyOf' l
  have written : Call.Settles (Processor.onLink _) (⟨⟨keyOf', some valueOf'⟩, l⟩ : Desk δ) _ _ _ :=
    .zoom (fun _ _ => rfl) (fun _ => rfl) (fun _ _ _ => rfl) given rfl
  have put : Call.Settles (Processor.operate ⟨conn, .put⟩ ctx batch keys) _ _ _ _ :=
    contents.bind_ok (written.bind_ok (.pure _ _))
  have all := found.bind_ok put
  simp only [List.nil_append, List.append_nil] at all
  rw [Processor.process_of_ne_nil _ hb]
  exact .observed _ _ all

namespace Writer

/-- What a call leaves of the store: each key of the batch has the content of the last message with
that key, and never expires, and no other key is touched. -/
structure Stored (keys : List Bytes) (batch : List Message) (before after : Memory) : Prop where
  stored : ∀ (i : Nat) (key : Bytes), keys[i]? = some key → ∃ j m, IsLast keys j key ∧
    batch[j]? = some m ∧ after.entries.find? key = some ⟨m.content, none⟩
  untouched : ∀ key, key ∉ keys → after.entries.find? key = before.entries.find? key

theorem stored_puts {keys : List Bytes} {batch : List Message} (hl : keys.length = batch.length)
    (now : Reading) {m m' : Memory} (entries : m'.entries = m.entries) :
    Stored keys batch m ((keys.zip (batch.map Message.content)).foldl
      (fun m p => m.store p.1 p.2 none now) m') := by
  refine ⟨fun i key hkey => ?_, fun key hkey => ?_⟩
  · have paired : keys.length = (batch.map Message.content).length := by rw [hl, List.length_map]
    obtain ⟨j, v, hj, hv, hf⟩ := lookup_reverse_zip paired (List.mem_of_getElem? hkey)
    rw [List.getElem?_map, Option.map_eq_some_iff] at hv
    obtain ⟨message, hm, rfl⟩ := hv
    refine ⟨j, message, hj, hm, ?_⟩
    rw [Memory.find?_puts, hf]
    rfl
  · have hn : (keys.zip (batch.map Message.content)).reverse.lookup key = none := by
      rw [List.lookup_eq_none_iff]
      intro p hp
      have hmem := (List.of_mem_zip (List.mem_reverse.1 hp)).1
      rw [bne_iff_ne]
      exact fun h => hkey (h ▸ hmem)
    rw [Memory.find?_puts, hn, entries]
    rfl

/-- The resolver of contents answers with them, and stays as it is. -/
theorem resolveFrom_content (ms : List Message) (index : Nat) :
    Resolver.content.resolveFrom index ms = (.ok (ms.map Message.content), .content) := by
  induction ms generalizing index with
  | nil => rfl
  | cons m ms ih =>
    simp only [Resolver.resolveFrom, Resolver.resolve, ih]
    rfl

/-- The resolvers of a writer whose next number to be drawn is `n`. -/
def numbered (stem : String) (n : Nat) : Resolvers := .byId ⟨stem, UInt64.ofNat n⟩

/-- What one call does: it draws a number for each message without an entry, and gives the whole
batch to the store with one command. -/
structure Writes (stem : String) (n : Nat) (batch : List Message) (d d' : Desk (Clocked Memory))
    (es : List Event) : Prop where
  resolvers : d'.resolvers = numbered stem (n + untagged "id" batch)
  intact : d'.link.Intact (fun _ => True) fun m => m.isOpen = true
  given : batch ≠ [] → .command (.batchPut
    ((keysFrom stem n batch).zip (batch.map Message.content))) ∈ es
  stored : Stored (keysFrom stem n batch) batch d.link.store.store d'.link.store.store

theorem settles_write {conn : Connection (Clocked Memory)} {atomicSwap : Bool}
    (hd : conn.driver = Clocked.driver "memory" atomicSwap Memory.exec) {stem : String} {n : Nat}
    {batch : List Message} (room : n + untagged "id" batch ≤ UInt64.size)
    {d : Desk (Clocked Memory)} (hr : d.resolvers = numbered stem n)
    (hl : d.link.Intact (fun _ => True) fun m => m.isOpen = true) :
    ∃ d' es, Call.Settles ((ofConnection conn).write {} batch) d (.ok ()) d' es ∧
      Writes stem n batch d d' es := by
  obtain ⟨rs, l⟩ := d
  obtain rfl : rs = numbered stem n := hr
  by_cases hb : batch = []
  · subst hb
    exact ⟨_, _, .bind_ok (.pure _ _) (.pure _ _), rfl, hl, fun h => absurd rfl h, nofun,
      fun _ _ => rfl⟩
  obtain ⟨l', w, entries⟩ := Memory.wakes hd hl
  obtain ⟨es, acquired⟩ := w.settles
  generalize hp : (keysFrom stem n batch).zip (batch.map Message.content) = pairs
  have served : Memory.exec (.batchPut pairs) l'.store.now l'.store.store =
      (.ok (), pairs.foldl (fun m p => m.store p.1 p.2 none l'.store.now) l'.store.store) :=
    Memory.exec_of_open (c := .batchPut pairs) nofun nofun w.up.isOpen _
  have calm : ({} : Context).cancelledAt = none := rfl
  have given := Connection.settles_perform (hd ▸ Clocked.answers_driver "memory" atomicSwap _)
    calm acquired (.batchPut pairs) (.transport "batch_put" none)
  simp only [served] at given
  subst hp
  have written := Processor.settles_put_of_resolved hb (resolveFrom_eq stem room 0)
    (resolveFrom_content batch 0) given
  refine ⟨_, _, written.bind_ok (.pure _ _), rfl, ⟨trivial, fun _ => ?_⟩, fun _ => ?_, ?_⟩
  · exact (congrArg (fun r => r.2.isOpen) served).symm.trans
      (Memory.isOpen_exec (c := .batchPut _) nofun w.up.isOpen _)
  · simp
  · exact stored_puts (length_keysFrom stem n batch) _ entries

/-! ## Calls one after the other -/

end Writer

/-- A call to a writer: what the clock shows when it is made, and the batch. -/
structure WriterCall where
  now : Reading
  batch : List Message

namespace Writer

/-- The messages of calls. -/
def messages (calls : List WriterCall) : List Message := calls.flatMap WriterCall.batch

variable (w : Writer (Clocked Memory)) (t : Tick)

/-- How a call goes. -/
def outcome (call : WriterCall) (d : Desk (Clocked Memory)) :
    Timed.Outcome Event (Desk (Clocked Memory)) (Except Failure Unit) :=
  (w.write {} call.batch).run.run none t { d with link := d.link.showing call.now }

/-- The desk that calls leave one after the other. -/
def leave (calls : List WriterCall) (d : Desk (Clocked Memory)) : Desk (Clocked Memory) :=
  calls.foldl (fun d call => (w.outcome t call d).state) d

/-- What a call does that is made after others. -/
structure StoresEvery (stem : String) (start : Desk (Clocked Memory)) (earlier : List WriterCall)
    (call : WriterCall) : Prop where
  /-- It succeeds at once. -/
  answer : (w.outcome t call (w.leave t earlier start)).finished = some (.ok (), t)
  /-- It numbers its messages on from those before, and stores them. -/
  writes : Writes stem (1 + untagged "id" (messages earlier)) call.batch (w.leave t earlier start)
    (w.leave t (earlier ++ [call]) start) (w.outcome t call (w.leave t earlier start)).events
  /-- Its keys go on from those before it. -/
  sequence : keysFrom stem 1 (messages (earlier ++ [call])) =
    keysFrom stem 1 (messages earlier) ++
      keysFrom stem (1 + untagged "id" (messages earlier)) call.batch
  /-- Of all messages so far no two without an entry have one key. -/
  distinct : ∀ (i j : Nat) (m m' : Message), i < j →
    (messages (earlier ++ [call]))[i]? = some m → (messages (earlier ++ [call]))[j]? = some m' →
    m.tag? "id" = none → m'.tag? "id" = none →
    (keysFrom stem 1 (messages (earlier ++ [call])))[i]? ≠
      (keysFrom stem 1 (messages (earlier ++ [call])))[j]?

variable {w t} {conn : Connection (Clocked Memory)} {atomicSwap : Bool} {stem : String} {n : Nat}
  {d : Desk (Clocked Memory)}

theorem leave_append_singleton (w : Writer (Clocked Memory)) (t : Tick) (calls : List WriterCall)
    (call : WriterCall) (d : Desk (Clocked Memory)) :
    w.leave t (calls ++ [call]) d = (w.outcome t call (w.leave t calls d)).state :=
  List.foldl_append

/-- How a call goes on a desk that others have left. -/
theorem writes_outcome (hd : conn.driver = Clocked.driver "memory" atomicSwap Memory.exec)
    (call : WriterCall) (room : n + untagged "id" call.batch ≤ UInt64.size)
    (hr : d.resolvers = numbered stem n)
    (hl : d.link.Intact (fun _ => True) fun m => m.isOpen = true) :
    ((ofConnection conn).outcome t call d).finished = some (.ok (), t) ∧
      Writes stem n call.batch d ((ofConnection conn).outcome t call d).state
        ((ofConnection conn).outcome t call d).events := by
  have shown : (d.link.showing call.now).Intact (fun _ => True) fun m => m.isOpen = true :=
    ⟨trivial, hl.isOpen⟩
  obtain ⟨d', es, h, writes⟩ :=
    settles_write (d := { d with link := d.link.showing call.now }) hd room hr shown
  have hrun : (ofConnection conn).outcome t call d = _ := h none t
  rw [hrun]
  exact ⟨rfl, writes.resolvers, writes.intact, writes.given, writes.stored⟩

/-- Calls one after the other number all their messages on, and leave an intact link. -/
theorem leave_numbered (hd : conn.driver = Clocked.driver "memory" atomicSwap Memory.exec)
    (calls : List WriterCall) (room : n + untagged "id" (messages calls) ≤ UInt64.size)
    (hr : d.resolvers = numbered stem n)
    (hl : d.link.Intact (fun _ => True) fun m => m.isOpen = true) :
    ((ofConnection conn).leave t calls d).resolvers =
        numbered stem (n + untagged "id" (messages calls)) ∧
      ((ofConnection conn).leave t calls d).link.Intact (fun _ => True)
        fun m => m.isOpen = true := by
  induction calls generalizing n d with
  | nil => exact ⟨hr, hl⟩
  | cons call calls ih =>
    have all : untagged "id" (messages (call :: calls)) =
        untagged "id" call.batch + untagged "id" (messages calls) := by
      rw [messages, List.flatMap_cons, untagged, List.countP_append]
      rfl
    rw [all, ← Nat.add_assoc] at room ⊢
    obtain ⟨-, writes⟩ := writes_outcome (t := t) hd call (by omega) hr hl
    exact ih room writes.resolvers writes.intact

/-- A writer of identifiers over the store in memory stores every message of a batch, whatever it
has stored before and whatever is in the store, as long as fewer than 2⁶⁴ identifiers are drawn. -/
theorem write_stores_every_message (config : ClientConfig) (atomicSwap : Bool) (stem : String)
    (t : Tick) (link : Link (Clocked Memory))
    (intact : link.Intact (fun _ => True) fun m => m.isOpen = true) (earlier : List WriterCall)
    (call : WriterCall) (few : untagged "id" (messages (earlier ++ [call])) < UInt64.size) :
    (ofConnection (.ofConfig (Memory.driver atomicSwap) config)).StoresEvery t stem
      ⟨.byId ⟨stem, 1⟩, link⟩ earlier call := by
  have last : messages (earlier ++ [call]) = messages earlier ++ call.batch := by
    rw [messages, List.flatMap_append, List.flatMap_singleton]
    rfl
  have all : untagged "id" (messages (earlier ++ [call])) =
      untagged "id" (messages earlier) + untagged "id" call.batch := by
    rw [last, untagged, List.countP_append]
    rfl
  have hd : (Connection.ofConfig (Memory.driver atomicSwap) config).driver =
    Clocked.driver "memory" atomicSwap Memory.exec := rfl
  obtain ⟨hr, hl⟩ := leave_numbered (n := 1) (t := t) (d := ⟨.byId ⟨stem, 1⟩, link⟩) hd earlier
    (by omega) rfl intact
  obtain ⟨answer, writes⟩ := writes_outcome (t := t) hd call (by omega) hr hl
  refine ⟨answer, ?_, ?_, fun i j m m' hij hm hm' h h' => keysFrom_ne hij hm hm' h h'⟩
  · rw [leave_append_singleton]
    exact writes
  · rw [last, keysFrom_append]

/-- A batch with one text twice, no text and an empty text, after one in which a number was drawn,
while the clock goes back. -/
theorem write_stores_every_message_of_repeated_text :
    let w := ofConnection (.ofConfig (Memory.driver false) {})
    let link : Link (Clocked Memory) := ⟨.disconnected, 9, .empty⟩
    let earlier : List WriterCall := [⟨5, [{ content := [7] }]⟩]
    let call : WriterCall := ⟨3, [{ content := [1], metadata := [("id", "a")] }, { content := [2] },
      { content := [3], metadata := [("id", "a")] }, { content := [4], metadata := [("id", "")] }]⟩
    untagged "id" (messages (earlier ++ [call])) < UInt64.size ∧
      w.StoresEvery 0 "doc" ⟨.byId ⟨"doc", 1⟩, link⟩ earlier call ∧
      keysFrom "doc" 2 call.batch = [[97], [100, 111, 99, 45, 50], [97], []] ∧
      (w.leave 0 (earlier ++ [call]) ⟨.byId ⟨"doc", 1⟩, link⟩).link.store.store.entries.find? [97] =
        some ⟨[3], none⟩ := by
  intro w link earlier call
  have few : untagged "id" (messages (earlier ++ [call])) < UInt64.size := by decide
  have intact : link.Intact (fun _ => True) fun m => m.isOpen = true := ⟨trivial, nofun⟩
  have stores := write_stores_every_message {} false "doc" 0 link intact earlier call few
  exact ⟨few, stores, by decide +kernel, by decide +kernel⟩

end Writer

end KvBridge
