import KvBridge.Cache
import KvBridge.Proofs.Connection.Prompt
import KvBridge.Proofs.Store.Entries

/-!
# A cache over the store in memory is a map with deadlines

`TtlMap` is what a user of a cache sees: a map from keys to values with deadlines, in milliseconds
without bound but for the last moment at which deadlines stop. `TtlMap.answer` says what each call
to a cache answers and leaves. `Cache.play` takes the calls of a run to a cache, with changes of the
clock between them; `TtlMap.play` takes them to the map. Both answer alike, whether or not adding is
one conditional write:

* `Link.Carries`: the invariant, of the link of a connection to a store in memory;
* `settles_call`: one call;
* `play_carries`: a run;
* `play_answers_as_map`: a run on a new cache.
-/

namespace KvBridge

/-! ## Calls -/

/-- A call to a cache. -/
inductive CacheCall
  | get (key : Bytes)
  | set (key value : Bytes) (ttl : Option Duration)
  | add (key value : Bytes) (ttl : Option Duration)
  | delete (key : Bytes)
  | connect
  | close
deriving DecidableEq, Repr

namespace CacheCall

/-- What a call that succeeds answers. -/
abbrev Reply : CacheCall → Type
  | .get _ => Bytes
  | _ => Unit

/-- A call, how it ended, and at which tick if it did. -/
abbrev Ended := (c : CacheCall) × Option (Except Failure c.Reply × Tick)

end CacheCall

/-- What happens in a run: the clock shows another reading, or a call is made. -/
inductive CacheStep
  | clock (now : Reading)
  | call (c : CacheCall)
deriving DecidableEq, Repr

/-- The readings of the clock never decrease. -/
def CacheStep.Ascending : Reading → List CacheStep → Prop
  | _, [] => True
  | now, .clock later :: steps => now ≤ later ∧ Ascending later steps
  | now, .call _ :: steps => Ascending now steps

namespace Cache

variable {β δ : Type}

/-- The program of a call. -/
def call (cache : Cache δ) (ctx : Context) : (c : CacheCall) → Call (Link δ) c.Reply
  | .get key => cache.get ctx key
  | .set key value ttl => cache.set ctx key value ttl
  | .add key value ttl => cache.add ctx key value ttl
  | .delete key => cache.delete ctx key
  | .connect => cache.conn.connect ctx
  | .close => cache.conn.close ctx

/-- A run: how its calls end, one after the other, and the link that it leaves. -/
def play (cache : Cache (Clocked β)) (ctx : Context) (t : Tick) :
    List CacheStep → Link (Clocked β) → List CacheCall.Ended × Link (Clocked β)
  | [], l => ([], l)
  | .clock now :: steps, l => play cache ctx t steps { l with store := { l.store with now } }
  | .call c :: steps, l =>
    let o := (cache.call ctx c).run.run none t l
    let rest := play cache ctx t steps o.state
    (⟨c, o.finished⟩ :: rest.1, rest.2)

end Cache

/-! ## The reference -/

/-- A value and the millisecond from which on it has expired; it never does if there is none. -/
structure TtlItem where
  value : Bytes
  deadline : Option Nat
deriving DecidableEq, Repr

/-- An item is live if it has no deadline or the deadline is still to come. -/
def TtlItem.IsLive (i : TtlItem) (now : Nat) : Prop := ∀ d, i.deadline = some d → d > now

instance (i : TtlItem) (now : Nat) : Decidable (i.IsLive now) :=
  decidable_of_iff (i.deadline.all (· > now) = true) (by
    cases h : i.deadline <;> simp [TtlItem.IsLive, h])

/-- A partial map from keys to values with deadlines. -/
def TtlMap := Bytes → Option TtlItem

namespace TtlMap

def empty : TtlMap := fun _ => none

/-- The last moment, at which all later deadlines stop. -/
def lastMoment : Nat := 18446744073709551615

/-- The deadline of a value that is written now. -/
def deadline (now : Nat) (ttl : Option Duration) : Option Nat :=
  ttl.map fun d => min (now + d.nanos / 1000000) lastMoment

/-- The live value of a key. -/
def live? (m : TtlMap) (now : Nat) (key : Bytes) : Option Bytes :=
  (m key).bind fun i => if i.IsLive now then some i.value else none

/-- The map with another item for a key, or with none. -/
def update (m : TtlMap) (key : Bytes) (i : Option TtlItem) : TtlMap :=
  fun k => if k = key then i else m k

/-- What a call answers, and the map that it leaves. Without a span of its own a value lives as
long as `ttl₀` says. -/
def answer (ttl₀ : Option Duration) (now : Nat) (m : TtlMap) :
    (c : CacheCall) → Except Failure c.Reply × TtlMap
  | .get key =>
    match m.live? now key with
    | some value => (.ok value, m)
    | none => (.error .keyNotFound, m)
  | .set key value ttl => (.ok (), m.update key (some ⟨value, deadline now (ttl.or ttl₀)⟩))
  | .add key value ttl =>
    match m.live? now key with
    | some _ => (.error .keyAlreadyExists, m)
    | none => (.ok (), m.update key (some ⟨value, deadline now (ttl.or ttl₀)⟩))
  | .delete key => (.ok (), m.update key none)
  | .connect | .close => (.ok (), m)

/-- A run on the map, in which every call ends at once. -/
def play (ttl₀ : Option Duration) (t : Tick) :
    List CacheStep → Nat → TtlMap → List CacheCall.Ended × TtlMap
  | [], _, m => ([], m)
  | .clock now :: steps, _, m => play ttl₀ t steps now.toNat m
  | .call c :: steps, now, m =>
    let r := m.answer ttl₀ now c
    let rest := play ttl₀ t steps now r.2
    (⟨c, some (r.1, t)⟩ :: rest.1, rest.2)

end TtlMap

/-! ## Entries and items -/

/-- An entry as a user sees it. -/
def Entry.item (e : Entry) : TtlItem := ⟨e.value, e.expiresAt.map UInt64.toNat⟩

theorem Entry.isLive_item (e : Entry) (now : Reading) :
    e.item.IsLive now.toNat ↔ e.isLive now = true := by
  obtain ⟨value, _ | moment⟩ := e <;>
    simp [item, TtlItem.IsLive, isLive, UInt64.lt_iff_toNat_lt]

/-- The deadline of an entry that is written now. -/
theorem Entry.item_written (value : Bytes) (ttl : Option Duration) (now : Reading) :
    (Entry.written value ttl now).item = ⟨value, TtlMap.deadline now.toNat ttl⟩ := by
  cases ttl with
  | none => rfl
  | some d =>
    simp only [item, written, TtlMap.deadline, Option.map_some, Reading.toNat_expiresAt,
      Duration.toNat_wholeMillis, TtlMap.lastMoment, UInt64.size, TtlItem.mk.injEq, true_and,
      Option.some.injEq]
    omega

/-- A map of entries as a user sees it. -/
def Entries.items (es : Entries) : TtlMap := fun key => (es key).map Entry.item

namespace Entries

theorem live?_items (es : Entries) (now : Reading) (key : Bytes) :
    es.items.live? now.toNat key = es.live? now key := by
  simp only [TtlMap.live?, items, live?]
  cases es key with
  | none => rfl
  | some e =>
    simp only [Option.map_some, Option.bind_some, e.isLive_item now]
    rfl

theorem items_write (es : Entries) (key : Bytes) (e : Entry) :
    (es.write key e).items = es.items.update key (some e.item) := by
  funext k
  simp only [items, write, TtlMap.update]
  split <;> rfl

theorem items_erase (es : Entries) (key : Bytes) :
    (es.erase key).items = es.items.update key none := by
  funext k
  simp only [items, erase, TtlMap.update]
  split <;> rfl

end Entries

/-- The store has the items of the map, or has taken out some that have expired. -/
def Memory.Shows (m : Memory) (items : TtlMap) (now : Reading) : Prop :=
  ∀ key, match m.entries.find? key with
    | some e => items key = some e.item
    | none => ∀ i, items key = some i → ¬ i.IsLive now.toNat

theorem Memory.Holds.shows {m : Memory} {es : Entries} {now : Reading} (h : m.Holds es now) :
    m.Shows es.items now := by
  intro key
  rcases h key with hk | ⟨hk, e, he, hx⟩
  · rw [hk]
    cases he : es key with
    | none => simp [Entries.items, he]
    | some e => simp [Entries.items, he]
  · rw [hk]
    simp only [Entries.items, he, Option.map_some, Option.some.injEq, forall_eq', e.isLive_item now,
      hx, Bool.false_eq_true, not_false_iff]

/-! ## The link of a cache -/

/-- The link of a connection to a store in memory that holds the entries of a map. -/
structure Link.Carries (l : Link (Clocked Memory)) (es : Entries) : Prop where
  isOpen_of_connected : l.phase = .connected → l.store.store.isOpen = true
  holds : l.store.store.Holds es l.store.now

namespace Cache

variable {cache : Cache (Clocked Memory)} {atomicSwap : Bool} {ctx : Context}
  {l : Link (Clocked Memory)} {es : Entries}

/-- The link has ended up so in a call: at the same reading, with the entries of a map. -/
structure Leaves (l l' : Link (Clocked Memory)) (es : Entries) : Prop where
  now : l'.store.now = l.store.now
  carries : l'.Carries es

theorem answers_memory (atomicSwap : Bool) :
    (Memory.driver atomicSwap).Answers fun c s =>
      ((s.store.exec c s.now).1, { s with store := (s.store.exec c s.now).2 }) :=
  Clocked.answers_driver _ _ _

/-- The client of a store in memory can always be set up. -/
theorem settles_acquire (hd : cache.conn.driver = Memory.driver atomicSwap)
    (hc : ctx.cancelledAt = none) (hl : l.Carries es) :
    ∃ l' evs, Call.Settles (cache.conn.acquire ctx) l (.ok ()) l' evs ∧
      l'.phase = .connected ∧ Leaves l l' es := by
  cases hp : l.phase with
  | connected =>
    exact ⟨l, _, Connection.settles_acquire_of_connected hp, hp, rfl, hl⟩
  | disconnected =>
    have h := Connection.settles_acquire (hd ▸ answers_memory atomicSwap) hc hp rfl rfl
    exact ⟨_, _, h, rfl, rfl, fun _ => rfl, hl.holds.of_entries rfl⟩

/-- A command on data is served with the entries of the map. -/
theorem settles_perform (hd : cache.conn.driver = Memory.driver atomicSwap)
    (hc : ctx.cancelledAt = none) (hl : l.Carries es) {c : Command} (hn : c ≠ .connect)
    (hn' : c ≠ .close) (failed : Cause → Failure) :
    ∃ l' evs, Call.Settles (cache.conn.perform ctx c failed) l
        (.ok (es.serve c l.store.now).1) l' evs ∧
      Leaves l l' (es.serve c l.store.now).2 := by
  obtain ⟨l₁, evs, ha, hp, hr₁, hl₁⟩ := settles_acquire hd hc hl
  have h := Connection.settles_perform (hd ▸ answers_memory atomicSwap) hc ha c failed
  obtain ⟨hr, hs⟩ := hl₁.holds.serve c
  rw [Memory.exec_of_open hn hn' (hl₁.isOpen_of_connected hp)] at h
  change Call.Settles _ _ (.ok _) _ _ at h
  rw [hr, hr₁] at h
  refine ⟨_, _, h, rfl, fun _ => ?_, ?_⟩
  · exact (Memory.isOpen_serve _ _ _).trans (hl₁.isOpen_of_connected hp)
  · rw [hr₁] at hs
    exact hs

theorem settles_get (hd : cache.conn.driver = Memory.driver atomicSwap)
    (hc : ctx.cancelledAt = none) (hl : l.Carries es) (key : Bytes) :
    ∃ l' evs, Call.Settles (cache.get ctx key) l
        (match es.live? l.store.now key with
          | some value => .ok value
          | none => .error .keyNotFound) l' evs ∧ Leaves l l' es := by
  obtain ⟨l', evs, h, hl'⟩ := settles_perform hd hc hl (c := .get key) (by simp) (by simp)
    (.transportForKey "get" key)
  refine ⟨l', _, .observed _ _ (h.bind_ok (?_ : Call.Settles _ _ _ l' [])), hl'⟩
  simp only [Entries.serve]
  cases es.live? l.store.now key with
  | none => exact .throw _ _
  | some value => exact .pure _ _

theorem settles_store (hd : cache.conn.driver = Memory.driver atomicSwap)
    (hc : ctx.cancelledAt = none) (hl : l.Carries es) (key value : Bytes)
    (ttl : Option Duration) :
    ∃ l' evs, Call.Settles (cache.store ctx key value ttl) l (.ok ()) l' evs ∧
      Leaves l l' (es.write key (.written value ttl l.store.now)) := by
  cases ttl with
  | none => exact settles_perform hd hc hl (c := .put key value) (by simp) (by simp) _
  | some d => exact settles_perform hd hc hl (c := .putWithTtl key value d) (by simp) (by simp) _

/-- Adding answers alike in both ways, whatever the driver promises. -/
theorem settles_add (hd : cache.conn.driver = Memory.driver atomicSwap)
    (hc : ctx.cancelledAt = none) (hl : l.Carries es) (key value : Bytes)
    (ttl : Option Duration) :
    ∃ l' evs, Call.Settles (cache.add ctx key value ttl) l
        (if (es.live? l.store.now key).isSome then .error .keyAlreadyExists else .ok ()) l' evs ∧
      Leaves l l' (if (es.live? l.store.now key).isSome then es
        else es.write key (.written value (cache.effectiveTtl ttl) l.store.now)) := by
  unfold add
  split
  · obtain ⟨l', evs, h, hl'⟩ := settles_perform hd hc hl
      (c := .compareAndSwap key none value (cache.effectiveTtl ttl)) (by simp) (by simp)
      (.transportForKey "add" key)
    simp only [Entries.serve] at h hl'
    cases hv : es.live? l.store.now key with
    | none =>
      rw [hv, if_pos rfl] at h hl'
      exact ⟨l', _, .observed _ _ (h.bind_ok (.pure _ _)), hl'⟩
    | some v =>
      rw [hv, if_neg (by simp)] at h hl'
      exact ⟨l', _, .observed _ _ (h.bind_ok (.throw _ _)), hl'⟩
  · obtain ⟨l₁, evs, h, hn, hl₁⟩ := settles_perform hd hc hl (c := .get key) (by simp) (by simp)
      (.transportForKey "add" key)
    simp only [Entries.serve] at h hl₁
    cases hv : es.live? l.store.now key with
    | none =>
      rw [hv] at h
      obtain ⟨l', evs', hs, hn', hl'⟩ :=
        settles_store hd hc hl₁ key value (cache.effectiveTtl ttl)
      rw [hn] at hl' hn'
      exact ⟨l', _, .observed _ _ (h.bind_ok hs), hn', hl'⟩
    | some v =>
      rw [hv] at h
      exact ⟨l₁, _, .observed _ _ (h.bind_ok (.throw _ _)), hn, hl₁⟩

theorem settles_close (hd : cache.conn.driver = Memory.driver atomicSwap)
    (hc : ctx.cancelledAt = none) (hl : l.Carries es) :
    ∃ l' evs, Call.Settles (cache.conn.close ctx) l (.ok ()) l' evs ∧ Leaves l l' es := by
  cases hp : l.phase with
  | connected =>
    have h := Connection.settles_close (hd ▸ answers_memory atomicSwap) hc hp rfl
    exact ⟨_, _, h, rfl, nofun, hl.holds.of_entries rfl⟩
  | disconnected => exact ⟨l, _, Connection.settles_close_of_disconnected hp, rfl, hl⟩

theorem settles_connect (hd : cache.conn.driver = Memory.driver atomicSwap)
    (hc : ctx.cancelledAt = none) (hl : l.Carries es) :
    ∃ l' evs, Call.Settles (cache.conn.connect ctx) l (.ok ()) l' evs ∧ Leaves l l' es := by
  cases hp : l.phase with
  | connected => exact ⟨l, _, Connection.settles_connect_of_connected hp, rfl, hl⟩
  | disconnected =>
    have h := Connection.settles_connect (hd ▸ answers_memory atomicSwap) hc hp rfl rfl
    exact ⟨_, _, h, rfl, fun _ => rfl, hl.holds.of_entries rfl⟩

/-- A call answers as on the map of the items, and leaves a link that carries what is left there. -/
theorem settles_call (hd : cache.conn.driver = Memory.driver atomicSwap)
    (hc : ctx.cancelledAt = none) (hl : l.Carries es) (c : CacheCall) :
    ∃ l' evs es', Call.Settles (cache.call ctx c) l
        (es.items.answer cache.defaultTtl l.store.now.toNat c).1 l' evs ∧
      Leaves l l' es' ∧ es'.items = (es.items.answer cache.defaultTtl l.store.now.toNat c).2 := by
  cases c with
  | get key =>
    obtain ⟨l', evs, h, hl'⟩ := settles_get hd hc hl key
    refine ⟨l', evs, es, ?_, hl', ?_⟩ <;> simp only [TtlMap.answer, Entries.live?_items]
    · cases hv : es.live? l.store.now key <;> simp only [hv] at h ⊢ <;> exact h
    · cases es.live? l.store.now key <;> rfl
  | set key value ttl =>
    obtain ⟨l', evs, h, hl'⟩ := settles_store hd hc hl key value (cache.effectiveTtl ttl)
    refine ⟨l', _, _, .observed _ _ h, hl', ?_⟩
    rw [Entries.items_write, Entry.item_written]
    rfl
  | add key value ttl =>
    obtain ⟨l', evs, h, hl'⟩ := settles_add hd hc hl key value ttl
    refine ⟨l', evs, _, ?_, hl', ?_⟩ <;> simp only [TtlMap.answer, Entries.live?_items]
    · cases hv : es.live? l.store.now key <;> simp only [hv] at h ⊢ <;> exact h
    · cases es.live? l.store.now key with
      | none =>
        simp only [Option.isSome_none, Bool.false_eq_true, if_false]
        rw [Entries.items_write, Entry.item_written]
        rfl
      | some v => rfl
  | delete key =>
    obtain ⟨l', evs, h, hl'⟩ := settles_perform hd hc hl (c := .delete key) (by simp) (by simp)
      (.transportForKey "delete" key)
    exact ⟨l', _, _, .observed _ _ h, hl', Entries.items_erase es key⟩
  | connect =>
    obtain ⟨l', evs, h, hl'⟩ := settles_connect hd hc hl
    exact ⟨l', evs, es, h, hl', rfl⟩
  | close =>
    obtain ⟨l', evs, h, hl'⟩ := settles_close hd hc hl
    exact ⟨l', evs, es, h, hl', rfl⟩

/-- A run answers as on the map of the items. The entries that the link carries are those that the
map has at the end, for what has expired stays so as long as the readings do not decrease. -/
theorem play_carries (hd : cache.conn.driver = Memory.driver atomicSwap)
    (hc : ctx.cancelledAt = none) (hl : l.Carries es) (t : Tick) {steps : List CacheStep}
    (hs : CacheStep.Ascending l.store.now steps) :
    ∃ es', (cache.play ctx t steps l).1 =
        (TtlMap.play cache.defaultTtl t steps l.store.now.toNat es.items).1 ∧
      (cache.play ctx t steps l).2.Carries es' ∧
      es'.items = (TtlMap.play cache.defaultTtl t steps l.store.now.toNat es.items).2 := by
  induction steps generalizing l es with
  | nil => exact ⟨es, rfl, hl, rfl⟩
  | cons step steps ih =>
    cases step with
    | clock now =>
      exact ih (l := { l with store := { l.store with now } })
        ⟨hl.isOpen_of_connected, hl.holds.later hs.1⟩ hs.2
    | call c =>
      obtain ⟨l', evs, es₁, hcall, ⟨hn, hl'⟩, he⟩ := settles_call hd hc hl c
      have hrun := hcall none t
      obtain ⟨es', h1, h2, h3⟩ := ih hl' (hn ▸ hs : CacheStep.Ascending l'.store.now steps)
      rw [hn, he] at h1 h3
      refine ⟨es', ?_, ?_, ?_⟩
      · simp only [play, TtlMap.play, hrun, h1]
      · simpa only [play, hrun] using h2
      · simpa only [TtlMap.play] using h3

/-- On a cache over a new store in memory, every call of a run is done at once and answers as on
the map with deadlines, whether or not adding is one conditional write, and the store has the
items of the map. -/
theorem play_answers_as_map (config : ClientConfig) (cacheConfig : CacheConfig) (atomicSwap : Bool)
    (now : Reading) (t : Tick) (steps : List CacheStep) (hs : CacheStep.Ascending now steps) :
    let cache := (Cache.build (.ofConfig (Memory.driver atomicSwap) config) cacheConfig).1
    let run := cache.play {} t steps ⟨.disconnected, now, .empty⟩
    let reference := TtlMap.play cacheConfig.defaultTtl t steps now.toNat .empty
    run.1 = reference.1 ∧ run.2.store.store.Shows reference.2 run.2.store.now := by
  intro cache run reference
  have hl : (⟨.disconnected, now, .empty⟩ : Link (Clocked Memory)).Carries .empty :=
    ⟨nofun, .empty now⟩
  have hd : cache.conn.driver = Memory.driver atomicSwap := rfl
  have hc : ({} : Context).cancelledAt = none := rfl
  obtain ⟨es, h1, h2, h3⟩ := play_carries hd hc hl t hs
  exact ⟨h1, h3 ▸ h2.holds.shows⟩

/-- A value that is added with a span of two milliseconds keeps its key taken until they have
passed, and not in the millisecond in which they have. -/
theorem play_answers_as_map_at_deadline :
    let steps := [
      .call (.add [1] [7] (some ⟨2500000⟩)), .clock 11, .call (.add [1] [8] none),
      .clock 12, .call (.get [1]), .call .close, .call (.add [1] [9] none), .call (.get [1])]
    let cache := (Cache.build (.ofConfig (Memory.driver false) {}) {}).1
    CacheStep.Ascending 10 steps ∧
      (cache.play {} 0 steps ⟨.disconnected, 10, .empty⟩).1 = [
        ⟨.add [1] [7] (some ⟨2500000⟩), some (.ok (), 0)⟩,
        ⟨.add [1] [8] none, some (.error .keyAlreadyExists, 0)⟩,
        ⟨.get [1], some (.error .keyNotFound, 0)⟩, ⟨.close, some (.ok (), 0)⟩,
        ⟨.add [1] [9] none, some (.ok (), 0)⟩, ⟨.get [1], some (.ok [9], 0)⟩] := by
  intro steps cache
  have hs : CacheStep.Ascending 10 steps := ⟨by decide, by decide, trivial⟩
  exact ⟨hs, (play_answers_as_map {} {} false 10 0 steps hs).1.trans rfl⟩

end Cache

end KvBridge
