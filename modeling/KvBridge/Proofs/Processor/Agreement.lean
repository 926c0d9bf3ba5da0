import KvBridge.Processor
import KvBridge.Proofs.Processor.Singles

/-!
# A batch does what single calls do

A processor writes, deletes or looks up a whole batch with one command, a cache one key with each.
Over a store that does values by key both come to the same: writing or deleting a batch leaves the
very link that single calls leave in the order of the batch, so nothing that is asked later tells
them apart, and looking a batch up gives each message what a read of its key would answer
(`Connection.BatchesAgree`). Resolvers must answer for the batch and stay as they are
(`Resolver.Gives`); of several items with one key the last counts (`IsLast`).

* `Processor.settles_put`, `Processor.settles_delete`, `Processor.settles_get`: the one command;
* `Connection.BatchesAgree.of_intact`: on a link whose store is open when its client counts as up;
* `Connection.batchesAgree_of_reached`: wherever calls lead, over both stores.
-/

namespace KvBridge

variable {β : Type}

/-! ## Resolvers -/

/-- The resolver answers for each message of the batch, and is the same afterwards. -/
structure Resolver.Gives (r : Resolver) (batch : List Message) (answers : List Bytes) : Prop where
  pure : ∀ m, (r.resolve m).2 = r
  answers : (r.resolveAll batch).1 = .ok answers

namespace Resolver

theorem resolveFrom_of_pure {r : Resolver} (hp : ∀ m, (r.resolve m).2 = r) (index : Nat)
    (batch : List Message) : (r.resolveFrom index batch).2 = r := by
  induction batch generalizing index with
  | nil => rfl
  | cons m ms ih =>
    have hm := hp m
    simp only [resolveFrom]
    generalize r.resolve m = answer at *
    obtain ⟨_ | bytes, r'⟩ := answer
    · exact hm
    · obtain rfl : r' = r := hm
      exact ih (index + 1)

theorem length_of_resolveFrom {r : Resolver} {index : Nat} {batch : List Message}
    {answers : List Bytes} (h : (r.resolveFrom index batch).1 = .ok answers) :
    answers.length = batch.length := by
  induction batch generalizing r index answers with
  | nil =>
    cases h
    rfl
  | cons m ms ih =>
    simp only [resolveFrom] at h
    split at h
    · cases h
    · rename_i r' _
      cases hr : (r'.resolveFrom (index + 1) ms).1 with
      | error f =>
        rw [hr] at h
        cases h
      | ok rest =>
        rw [hr] at h
        cases h
        rw [List.length_cons, List.length_cons, ih hr]

theorem Gives.resolveAll {r : Resolver} {batch : List Message} {answers : List Bytes}
    (h : r.Gives batch answers) : r.resolveAll batch = (.ok answers, r) :=
  Prod.ext h.answers (resolveFrom_of_pure h.pure 0 batch)

theorem Gives.length {r : Resolver} {batch : List Message} {answers : List Bytes}
    (h : r.Gives batch answers) : answers.length = batch.length :=
  length_of_resolveFrom h.answers

end Resolver

/-! ## The last of several items -/

/-- The item is the last one with this key. -/
structure IsLast (keys : List Bytes) (j : Nat) (key : Bytes) : Prop where
  here : keys[j]? = some key
  last : ∀ later > j, keys[later]? ≠ some key

/-- The value that stands beside the last item with a key is found from behind. -/
theorem lookup_reverse_zip {keys values : List Bytes} (hl : keys.length = values.length)
    {key : Bytes} (hk : key ∈ keys) : ∃ j v, IsLast keys j key ∧ values[j]? = some v ∧
      (keys.zip values).reverse.lookup key = some v := by
  induction keys generalizing values with
  | nil => cases hk
  | cons head keys ih =>
    cases values with
    | nil => cases hl
    | cons value values =>
      have hl' : keys.length = values.length := Nat.succ.inj hl
      rw [List.zip_cons_cons, List.reverse_cons, List.lookup_append]
      by_cases hm : key ∈ keys
      · obtain ⟨j, v, ⟨hj, hlast⟩, hv, hf⟩ := ih hl' hm
        refine ⟨j + 1, v, ⟨hj, fun later hlater => ?_⟩, hv, by rw [hf, Option.some_or]⟩
        obtain ⟨i, rfl⟩ : ∃ i, later = i + 1 := ⟨later - 1, by omega⟩
        exact hlast i (by omega)
      · obtain rfl : key = head := (List.mem_cons.1 hk).resolve_right hm
        have hn : (keys.zip values).reverse.lookup key = none := by
          rw [List.lookup_eq_none_iff]
          intro p hp
          have hmem := (List.of_mem_zip (List.mem_reverse.1 hp)).1
          rw [bne_iff_ne]
          exact fun h => hm (h ▸ hmem)
        refine ⟨0, value, ⟨rfl, fun later hlater => ?_⟩, rfl, ?_⟩
        · obtain ⟨i, rfl⟩ : ∃ i, later = i + 1 := ⟨later - 1, by omega⟩
          exact fun h => hm (List.mem_of_getElem? h)
        · rw [hn, Option.none_or, Table.lookup_cons_eq, if_pos rfl]

/-! ## Processing a batch -/

namespace Processor

/-- How a processor ends with a batch, and the desk that it leaves. -/
def outcome (conn : Connection (Clocked β)) (operation : Operation) (batch : List Message)
    (t : Tick) (resolvers : Resolvers) (l : Link (Clocked β)) :
    Timed.Outcome Event (Desk (Clocked β)) (Except Failure (List Message)) :=
  ((⟨conn, operation⟩ : Processor (Clocked β)).process {} batch).run.run none t ⟨resolvers, l⟩

variable {conn : Connection (Clocked β)} {name : String} {atomicSwap : Bool}
  {exec : (c : Command) → Reading → β → Except Cause c.Reply × β} {sound isOpen : β → Prop}
  {live? : β → Reading → Bytes → Option Bytes} {l l' : Link (Clocked β)} {rs : Resolvers}
  {batch : List Message} {keys values : List Bytes}

theorem settles_onLink {α : Type} {x : Call (Link (Clocked β)) α} {r : Except Failure α}
    {es : List Event} (h : Call.Settles x l r l' es) :
    Call.Settles (onLink x) ⟨rs, l⟩ r ⟨rs, l'⟩ es :=
  .zoom (fun _ _ => rfl) (fun _ => rfl) (fun _ _ _ => rfl) h rfl

theorem settles_resolveKeys (h : rs.key.Gives batch keys) (l : Link (Clocked β)) :
    Call.Settles (resolveKeys batch) ⟨rs, l⟩ (.ok keys) ⟨rs, l⟩ [] := by
  have ha : Call.Settles (resolveKeys batch) ⟨rs, l⟩ _ _ _ := Timed.Settles.act _ _
  simp only [h.resolveAll] at ha
  exact ha

theorem settles_resolveContents {keyOf valueOf : Resolver} (h : valueOf.Gives batch values)
    (l : Link (Clocked β)) : Call.Settles (resolveContents batch) ⟨⟨keyOf, some valueOf⟩, l⟩
      (.ok values) ⟨⟨keyOf, some valueOf⟩, l⟩ [] := by
  have ha : Call.Settles (resolveContents batch) ⟨⟨keyOf, some valueOf⟩, l⟩ _ _ _ :=
    Timed.Settles.act _ _
  simp only [h.resolveAll] at ha
  exact ha

/-- A batch that is not empty has its keys resolved, and then comes the operation. -/
theorem settles_process {operation : Operation} (hb : batch ≠ []) (hk : rs.key.Gives batch keys)
    {r : Except Failure (List Message)} {es : List Event}
    (h : Call.Settles (match operation with
      | .get => lookUp ⟨conn, operation⟩ {} batch keys
      | .delete => delete ⟨conn, operation⟩ {} batch keys
      | .put => put ⟨conn, operation⟩ {} batch keys) ⟨rs, l⟩ r ⟨rs, l'⟩ es) :
    ∃ es', Call.Settles (process ⟨conn, operation⟩ {} batch) ⟨rs, l⟩ r ⟨rs, l'⟩ es' := by
  rw [process, if_neg (by simpa using hb)]
  exact ⟨_, .observed _ _ ((settles_resolveKeys hk l).bind_ok h)⟩

/-- A batch that is written: the store gets its pairs, and the messages their values. -/
theorem settles_put (k : Keyed exec sound isOpen live?)
    (hd : conn.driver = Clocked.driver name atomicSwap exec) (w : Link.Wakes conn isOpen l l')
    {keyOf valueOf : Resolver} (hb : batch ≠ []) (hk : keyOf.Gives batch keys)
    (hv : valueOf.Gives batch values) :
    ∃ es, Call.Settles (process ⟨conn, .put⟩ {} batch) ⟨⟨keyOf, some valueOf⟩, l⟩
      (.ok (List.zipWith Message.setContent batch values))
      ⟨⟨keyOf, some valueOf⟩,
        l'.servedAll exec ((keys.zip values).map fun p => .put p.1 p.2)⟩ es := by
  obtain ⟨es, h⟩ := Connection.settles_perform_of_wakes hd w (.batchPut (keys.zip values))
    (.transport "batch_put" none)
  have hne : keys.zip values ≠ [] := by
    rw [← List.length_pos_iff, List.length_zip, hk.length, hv.length, Nat.min_self]
    exact List.length_pos_iff.2 hb
  rw [Link.served, k.batchPut l'.store.now _ w.up.isOpen hne] at h
  exact settles_process hb hk ((settles_resolveContents hv l).bind_ok
    ((settles_onLink h).bind_ok (.pure _ _)))

/-- A batch that is deleted: the messages stay as they are. -/
theorem settles_delete (k : Keyed exec sound isOpen live?)
    (hd : conn.driver = Clocked.driver name atomicSwap exec) (w : Link.Wakes conn isOpen l l')
    (hb : batch ≠ []) (hk : rs.key.Gives batch keys) :
    ∃ es, Call.Settles (process ⟨conn, .delete⟩ {} batch) ⟨rs, l⟩ (.ok batch)
      ⟨rs, l'.servedAll exec (keys.map .delete)⟩ es := by
  obtain ⟨es, h⟩ := Connection.settles_perform_of_wakes hd w (.batchDelete keys)
    (.transport "batch_delete" none)
  have hne : keys ≠ [] := by
    rw [← List.length_pos_iff, hk.length]
    exact List.length_pos_iff.2 hb
  rw [Link.served, k.batchDelete l'.store.now _ w.up.isOpen hne] at h
  exact settles_process hb hk ((settles_onLink h).bind_ok (.pure _ _))

/-- A batch that is looked up: each message gets what is live of its key. -/
theorem settles_get (k : Keyed exec sound isOpen live?)
    (hd : conn.driver = Clocked.driver name atomicSwap exec) (w : Link.Wakes conn isOpen l l')
    (hb : batch ≠ []) (hk : rs.key.Gives batch keys) :
    ∃ es, Call.Settles (process ⟨conn, .get⟩ {} batch) ⟨rs, l⟩
      (.ok (List.zipWith answer batch (keys.map (live? l'.store.store l'.store.now))))
      ⟨rs, l'.served exec (.batchGet keys)⟩ es := by
  obtain ⟨es, h⟩ := Connection.settles_perform_of_wakes hd w (.batchGet keys)
    (.transport "batch_get" none)
  rw [k.batchGet l'.store.now keys w.up.isOpen] at h
  refine settles_process hb hk ((settles_onLink h).bind_ok (?_ : Call.Settles _ _ _ _ []))
  rw [if_neg (by simp)]
  exact .pure _ _

end Processor

/-! ## Agreement -/

namespace Connection

variable (conn : Connection (Clocked β)) (l : Link (Clocked β))

/-- The run of calls to a cache that write pairs one by one, each without a span of life. -/
def setSingly (t : Tick) (ps : List (Bytes × Bytes)) :
    List CacheCall.Ended × Link (Clocked β) :=
  (⟨conn, none⟩ : Cache (Clocked β)).play {} t (ps.map fun p => .call (.set p.1 p.2 none)) l

/-- The run of calls to a cache that delete keys one by one. -/
def deleteSingly (t : Tick) (keys : List Bytes) : List CacheCall.Ended × Link (Clocked β) :=
  (⟨conn, none⟩ : Cache (Clocked β)).play {} t (keys.map fun key => .call (.delete key)) l

/-- All calls of a run succeed at the tick at which they are made. -/
def AllSucceed (t : Tick) (run : List CacheCall.Ended) : Prop :=
  ∀ ended ∈ run, ∃ r, ended.2 = some (.ok r, t)

/-- Writing a batch: the link is the one to which writing its pairs one by one leads, and whatever
the clock shows later, a key of the batch reads as the value of the last item with that key. -/
structure PutAgrees (keyOf valueOf : Resolver) (batch : List Message) (keys values : List Bytes)
    (t : Tick) : Prop where
  answer : (Processor.outcome conn .put batch t ⟨keyOf, some valueOf⟩ l).finished =
    some (.ok (List.zipWith Message.setContent batch values), t)
  desk : (Processor.outcome conn .put batch t ⟨keyOf, some valueOf⟩ l).state =
    ⟨⟨keyOf, some valueOf⟩, (conn.setSingly l t (keys.zip values)).2⟩
  singles : AllSucceed t (conn.setSingly l t (keys.zip values)).1
  reads : ∀ key ∈ keys, ∀ later t', ∃ j v, IsLast keys j key ∧ values[j]? = some v ∧
    conn.readAt t' later (conn.setSingly l t (keys.zip values)).2 key = some (.ok v, t')

/-- Deleting a batch: the link is the one to which deleting its keys one by one leads. -/
structure DeleteAgrees (rs : Resolvers) (batch : List Message) (keys : List Bytes) (t : Tick) :
    Prop where
  answer : (Processor.outcome conn .delete batch t rs l).finished = some (.ok batch, t)
  desk : (Processor.outcome conn .delete batch t rs l).state =
    ⟨rs, (conn.deleteSingly l t keys).2⟩
  singles : AllSucceed t (conn.deleteSingly l t keys).1
  reads : ∀ key ∈ keys, ∀ later t',
    conn.readAt t' later (conn.deleteSingly l t keys).2 key = some (.error .keyNotFound, t')

/-- The item of a message in the answer to a lookup, by what a cache answers to a read of its key
on the same link: the message with the value as its content, or with the failure that there is
none. -/
def ItemAgrees (t : Tick) (m : Message) (key : Bytes) (item : Message) : Prop :=
  (∃ v, conn.readAt t l.store.now l key = some (.ok v, t) ∧ item = m.setContent v) ∨
    (conn.readAt t l.store.now l key = some (.error .keyNotFound, t) ∧
      item = m.setFailure .keyNotFound)

/-- Looking a batch up: each item is what a cache would answer to a read of its key. -/
def GetAgrees (rs : Resolvers) (batch : List Message) (keys : List Bytes) (t : Tick) : Prop :=
  ∃ items, (Processor.outcome conn .get batch t rs l).finished = some (.ok items, t) ∧
    items.length = batch.length ∧ ∀ (i : Nat) (m : Message) (key : Bytes), batch[i]? = some m →
      keys[i]? = some key →
      ∃ item, items[i]? = some item ∧ conn.ItemAgrees l t m key item

/-- Looking a batch up after it was written: each item has the content of the last item with its
key, whatever the clock shows by then. -/
def PutThenGetAgrees (keyOf valueOf : Resolver) (batch : List Message)
    (keys values : List Bytes) (t : Tick) : Prop :=
  ∀ later t', ∃ items,
    let put := (Processor.outcome conn .put batch t ⟨keyOf, some valueOf⟩ l).state
    (Processor.outcome conn .get batch t' put.resolvers (put.link.showing later)).finished =
      some (.ok items, t') ∧
    items.length = batch.length ∧ ∀ (i : Nat) (m : Message) (key : Bytes), batch[i]? = some m →
      keys[i]? = some key →
      ∃ j v, IsLast keys j key ∧ values[j]? = some v ∧ items[i]? = some (m.setContent v)

/-- A processor does with each batch what calls to a cache do with its keys one by one, if the
resolvers answer for its messages and stay as they are. -/
structure BatchesAgree : Prop where
  put : ∀ (keyOf valueOf : Resolver) (batch : List Message) (keys values : List Bytes) (t : Tick),
    keyOf.Gives batch keys → valueOf.Gives batch values →
      conn.PutAgrees l keyOf valueOf batch keys values t ∧
        conn.PutThenGetAgrees l keyOf valueOf batch keys values t
  delete : ∀ (rs : Resolvers) (batch : List Message) (keys : List Bytes) (t : Tick),
    rs.key.Gives batch keys → conn.DeleteAgrees l rs batch keys t
  get : ∀ (rs : Resolvers) (batch : List Message) (keys : List Bytes) (t : Tick),
    rs.key.Gives batch keys → conn.GetAgrees l rs batch keys t

namespace BatchesAgree

variable {conn : Connection (Clocked β)} {name : String} {atomicSwap : Bool}
  {exec : (c : Command) → Reading → β → Except Cause c.Reply × β} {sound isOpen : β → Prop}
  {live? : β → Reading → Bytes → Option Bytes} {l l' : Link (Clocked β)} {rs : Resolvers}
  {batch : List Message} {keys values : List Bytes} {keyOf valueOf : Resolver} {t : Tick}

/-- Resolvers answer nothing for an empty batch. -/
theorem keys_nil {r : Resolver} {answers : List Bytes} (h : r.Gives [] answers) : answers = [] :=
  List.length_eq_zero_iff.1 h.length

theorem put_agrees (k : Keyed exec sound isOpen live?)
    (hd : conn.driver = Clocked.driver name atomicSwap exec) (w : Link.Wakes conn isOpen l l')
    (hk : keyOf.Gives batch keys) (hv : valueOf.Gives batch values) :
    conn.PutAgrees l keyOf valueOf batch keys values t := by
  by_cases hb : batch = []
  · subst hb
    obtain rfl := keys_nil hk
    obtain rfl := keys_nil hv
    exact ⟨rfl, rfl, nofun, nofun⟩
  obtain ⟨es, hp⟩ := Processor.settles_put k hd w hb hk hv
  have hrun := hp none t
  have hlen : keys.length = values.length := hk.length.trans hv.length.symm
  have hne : keys.zip values ≠ [] := by
    rw [← List.length_pos_iff, List.length_zip, hlen, Nat.min_self, hv.length]
    exact List.length_pos_iff.2 hb
  obtain ⟨hs, hl⟩ := play_writes k w t hne (fun p => .set p.1 p.2 none)
    (fun p => .put p.1 p.2) fun p => writes_set k hd p.1 p.2
  have hup := up_servedAll k w.up ((keys.zip values).map fun p => .put p.1 p.2)
    (List.forall_mem_map.2 fun _ _ => nofun)
  refine ⟨?_, ?_, hs, fun key hkey later t' => ?_⟩
  · rw [Processor.outcome, hrun]
  · rw [Processor.outcome, hrun, setSingly, hl]
  · obtain ⟨j, v, hj, hjv, hf⟩ := lookup_reverse_zip hlen hkey
    refine ⟨j, v, hj, hjv, ?_⟩
    rw [setSingly, hl, readAt_of_up k hd hup, Link.servedAll, k.live?_puts w.up.isOpen, hf]
    rfl

theorem delete_agrees (k : Keyed exec sound isOpen live?)
    (hd : conn.driver = Clocked.driver name atomicSwap exec) (w : Link.Wakes conn isOpen l l')
    (hk : rs.key.Gives batch keys) : conn.DeleteAgrees l rs batch keys t := by
  by_cases hb : batch = []
  · subst hb
    obtain rfl := keys_nil hk
    exact ⟨rfl, rfl, nofun, nofun⟩
  obtain ⟨es, hp⟩ := Processor.settles_delete k hd w hb hk
  have hrun := hp none t
  have hne : keys ≠ [] := by
    rw [← List.length_pos_iff, hk.length]
    exact List.length_pos_iff.2 hb
  obtain ⟨hs, hl⟩ := play_writes k w t hne .delete .delete (writes_delete k hd)
  have hup := up_servedAll k w.up (keys.map .delete) (List.forall_mem_map.2 fun _ _ => nofun)
  refine ⟨?_, ?_, hs, fun key hkey later t' => ?_⟩
  · rw [Processor.outcome, hrun]
  · rw [Processor.outcome, hrun, deleteSingly, hl]
  · rw [deleteSingly, hl, readAt_of_up k hd hup, Link.servedAll, k.live?_deletes w.up.isOpen,
      if_pos hkey]
    rfl

/-- The items of a batch that is looked up. -/
theorem getElem?_items {f : Bytes → Option Bytes} {i : Nat} {m : Message} {key : Bytes}
    (hm : batch[i]? = some m) (hkey : keys[i]? = some key) :
    (List.zipWith Processor.answer batch (keys.map f))[i]? = some (Processor.answer m (f key)) := by
  rw [List.getElem?_zipWith, hm, List.getElem?_map, hkey]
  rfl

theorem length_items (hl : keys.length = batch.length) (f : Bytes → Option Bytes) :
    (List.zipWith Processor.answer batch (keys.map f)).length = batch.length := by
  rw [List.length_zipWith, List.length_map, hl, Nat.min_self]

theorem get_agrees (k : Keyed exec sound isOpen live?)
    (hd : conn.driver = Clocked.driver name atomicSwap exec) (w : Link.Wakes conn isOpen l l')
    (hk : rs.key.Gives batch keys) : conn.GetAgrees l rs batch keys t := by
  by_cases hb : batch = []
  · subst hb
    exact ⟨[], rfl, rfl, nofun⟩
  obtain ⟨es, hp⟩ := Processor.settles_get k hd w hb hk
  have hrun := hp none t
  refine ⟨_, by rw [Processor.outcome, hrun], length_items hk.length _, fun i m key hm hkey => ?_⟩
  refine ⟨_, getElem?_items hm hkey, ?_⟩
  have hread := readAt_of_wakes k hd w t key
  rw [ItemAgrees, hread]
  cases live? l'.store.store l'.store.now key with
  | some v => exact .inl ⟨v, rfl, rfl⟩
  | none => exact .inr ⟨rfl, rfl⟩

theorem put_then_get_agrees (k : Keyed exec sound isOpen live?)
    (hd : conn.driver = Clocked.driver name atomicSwap exec) (w : Link.Wakes conn isOpen l l')
    (hk : keyOf.Gives batch keys) (hv : valueOf.Gives batch values) :
    conn.PutThenGetAgrees l keyOf valueOf batch keys values t := by
  intro later t'
  by_cases hb : batch = []
  · subst hb
    exact ⟨[], rfl, rfl, nofun⟩
  obtain ⟨es, hp⟩ := Processor.settles_put k hd w hb hk hv
  have hput := hp none t
  have hup := up_servedAll k w.up ((keys.zip values).map fun p => .put p.1 p.2)
    (List.forall_mem_map.2 fun _ _ => nofun)
  have hk' : (⟨keyOf, some valueOf⟩ : Resolvers).key.Gives batch keys := hk
  obtain ⟨es', hg⟩ := Processor.settles_get k hd (.refl (hup.showing later)) hb hk'
  have hget := hg none t'
  refine ⟨_, by rw [Processor.outcome, Processor.outcome, hput, hget], length_items hk.length _,
    fun i m key hm hkey => ?_⟩
  obtain ⟨j, v, hj, hjv, hf⟩ := lookup_reverse_zip (hk.length.trans hv.length.symm)
    (List.mem_of_getElem? hkey)
  refine ⟨j, v, hj, hjv, ?_⟩
  rw [getElem?_items hm hkey, Link.servedAll, Link.showing, k.live?_puts w.up.isOpen, hf]
  rfl

/-- On an intact link, batches do what single calls do. -/
theorem of_intact (k : Keyed exec sound isOpen live?)
    (hd : conn.driver = Clocked.driver name atomicSwap exec) (hl : l.Intact sound isOpen) :
    conn.BatchesAgree l := by
  obtain ⟨l', w⟩ := wakes_of_intact k hd hl
  refine ⟨fun keyOf valueOf batch keys values t hk hv => ⟨?_, ?_⟩, fun rs batch keys t hk => ?_,
    fun rs batch keys t hk => ?_⟩
  · exact put_agrees k hd w hk hv
  · exact put_then_get_agrees k hd w hk hv
  · exact delete_agrees k hd w hk
  · exact get_agrees k hd w hk

end BatchesAgree

/-- Wherever calls to a connection lead, its batches do what single calls do: over the store in
memory, and over an embedded store whose file was new. -/
theorem batchesAgree_of_reached (config : ClientConfig) :
    (∀ (atomicSwap : Bool) (l : Link (Clocked Memory)),
      Link.Reached (.ofConfig (Memory.driver atomicSwap) config) .empty l →
        (Connection.ofConfig (Memory.driver atomicSwap) config).BatchesAgree l) ∧
    ∀ (disk : Disk) (path : String) (l : Link (Clocked OnDisk)),
      disk.opening? path = some .empty →
        Link.Reached (.ofConfig Embedded.driver config) ⟨disk, path, false⟩ l →
          (Connection.ofConfig Embedded.driver config).BatchesAgree l := by
  refine ⟨fun atomicSwap l hl => ?_, fun disk path l hp hl => ?_⟩
  · exact .of_intact Memory.keyed rfl (hl.intact Memory.keyed rfl trivial)
  · have hs : OnDisk.Sound ⟨disk, path, false⟩ := ⟨.empty, (Interchangeable.fresh hp 0).has⟩
    exact .of_intact Embedded.keyed rfl (hl.intact Embedded.keyed rfl hs)

/-- A connection to a store in memory. -/
def inMemory : Connection (Clocked Memory) := .ofConfig (Memory.driver true) {}

/-- Its link after a value was written that lives for five milliseconds. -/
def expiring : Link (Clocked Memory) :=
  ((inMemory.perform {} (.putWithTtl [1] [9] ⟨5000000⟩) (.transport "set" none)).run.run none 0
    ⟨.disconnected, 10, .empty⟩).state

/-- A batch that has a key twice, over a value of that key that is about to expire, and a store on a
new file. -/
theorem batchesAgree_of_reached_over_deadline :
    let first : Resolver := .custom fun m => .ok (m.content.take 1)
    let batch : List Message := [{ content := [1, 7] }, { content := [2, 8] },
      { content := [1, 5] }]
    Link.Reached inMemory .empty expiring ∧
      (inMemory.readAt 0 14 expiring [1]).bind (·.1.toOption) = some [9] ∧
      (inMemory.readAt 0 15 expiring [1]).bind (·.1.toOption) = none ∧
      inMemory.PutAgrees expiring first .content batch [[1], [2], [1]]
        [[1, 7], [2, 8], [1, 5]] 0 ∧
      (Connection.ofConfig Embedded.driver {}).BatchesAgree
        ⟨.disconnected, 10, .empty, "kv.redb", false⟩ := by
  intro first batch
  have hc : Command.putWithTtl [1] [9] ⟨5000000⟩ ≠ .close := nofun
  have hl : Link.Reached inMemory .empty expiring := .perform _ _ hc _ _ _ (.fresh 10)
  have hk : Resolver.Gives first batch [[1], [2], [1]] := ⟨fun m => rfl, rfl⟩
  have hv : Resolver.Gives .content batch [[1, 7], [2, 8], [1, 5]] := ⟨fun m => rfl, rfl⟩
  have h := (batchesAgree_of_reached {}).1 true expiring hl
  have h' := (batchesAgree_of_reached {}).2 .empty "kv.redb" _ rfl (.fresh 10)
  exact ⟨hl, by decide +kernel, by decide +kernel, (h.put first .content batch _ _ 0 hk hv).1, h'⟩

end Connection

end KvBridge
