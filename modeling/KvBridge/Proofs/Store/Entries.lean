import KvBridge.Store.Memory

/-!
# Maps that forget nothing

What the stores have in common is a map from keys to entries, in which an entry whose deadline has
come reads as absent but stays where it is (`Entries.serve`). The store in memory takes such
entries out when it reads them. `Memory.Holds` relates the two:

* `Memory.Holds.live?`: both have the same live values;
* `Memory.Holds.later`: what has expired stays so;
* `Memory.Holds.serve`: each command has the same reply on both, and leaves them related.
-/

namespace KvBridge

namespace Entry

/-- An entry that has expired does not come back to life. -/
theorem isLive_later {e : Entry} {now later : Reading} (h : now ≤ later)
    (he : e.isLive now = false) : e.isLive later = false := by
  obtain ⟨value, _ | moment⟩ := e
  · simp [isLive] at he
  · simp only [isLive, Option.all_some, decide_eq_false_iff_not, UInt64.not_lt] at he ⊢
    exact UInt64.le_trans he h

end Entry

/-- The entries of all keys, those that have expired among them. -/
def Entries := Bytes → Option Entry

namespace Entries

def empty : Entries := fun _ => none

/-- The live value of a key. -/
def live? (es : Entries) (now : Reading) (key : Bytes) : Option Bytes :=
  match es key with
  | some e => if e.isLive now then some e.value else none
  | none => none

/-- Sets the entry of a key. -/
def write (es : Entries) (key : Bytes) (e : Entry) : Entries :=
  fun k => if k = key then some e else es k

/-- Takes a key out. -/
def erase (es : Entries) (key : Bytes) : Entries := fun k => if k = key then none else es k

/-- What a command on data answers and writes. -/
def serve (c : Command) (now : Reading) (es : Entries) : c.Reply × Entries :=
  match c with
  | .connect | .ready | .close => ((), es)
  | .get key => (es.live? now key, es)
  | .put key value => ((), es.write key (.written value none now))
  | .putWithTtl key value ttl => ((), es.write key (.written value (some ttl) now))
  | .compareAndSwap key expected new ttl =>
    let previous := es.live? now key
    if previous = expected then (⟨previous, true⟩, es.write key (.written new ttl now))
    else (⟨previous, false⟩, es)
  | .delete key => ((), es.erase key)
  | .batchGet keys => (keys.map (es.live? now), es)
  | .batchPut pairs => ((), pairs.foldl (fun es p => es.write p.1 (.written p.2 none now)) es)
  | .batchDelete keys => ((), keys.foldl erase es)

end Entries

namespace Memory

/-- The store has the entries of the map, or has taken out some that have expired. -/
def Holds (m : Memory) (es : Entries) (now : Reading) : Prop :=
  ∀ key, m.entries.find? key = es key ∨
    m.entries.find? key = none ∧ ∃ e, es key = some e ∧ e.isLive now = false

namespace Holds

variable {m : Memory} {es : Entries} {now : Reading}

theorem empty (now : Reading) : Memory.empty.Holds .empty now := fun _ => .inl rfl

/-- Only the entries matter, not whether the store is open. -/
theorem of_entries {m' : Memory} (h : m.Holds es now) (he : m'.entries = m.entries) :
    m'.Holds es now := by
  unfold Holds
  rw [he]
  exact h

theorem later {moment : Reading} (h : m.Holds es now) (hm : now ≤ moment) :
    m.Holds es moment := by
  intro key
  rcases h key with hk | ⟨hk, e, he, hx⟩
  · exact .inl hk
  · exact .inr ⟨hk, e, he, Entry.isLive_later hm hx⟩

theorem live? (h : m.Holds es now) (key : Bytes) : m.live? key now = es.live? now key := by
  rcases h key with hk | ⟨hk, e, he, hx⟩
  · cases he : es key <;> simp [Memory.live?, Entries.live?, hk, he]
  · simp [Memory.live?, Entries.live?, hk, he, hx]

theorem erase (h : m.Holds es now) (key : Bytes) : (m.erase key).Holds (es.erase key) now := by
  intro k
  simp only [Memory.erase, Entries.erase, Table.find?_erase]
  split
  · exact .inl rfl
  · exact h k

theorem store (h : m.Holds es now) (key value : Bytes) (ttl : Option Duration) :
    (m.store key value ttl now).Holds (es.write key (.written value ttl now)) now := by
  intro k
  simp only [Memory.store, Entries.write, Table.find?_insert]
  split
  · exact .inl rfl
  · exact h k

/-- Reading a key answers its live value, and takes out nothing but what has expired. -/
theorem load (h : m.Holds es now) (key : Bytes) :
    (m.load key now).1 = es.live? now key ∧ (m.load key now).2.Holds es now := by
  rw [← h.live? key]
  simp only [Memory.load, Memory.live?]
  cases hk : m.entries.find? key with
  | none => exact ⟨rfl, h⟩
  | some e =>
    simp only
    cases hx : e.isLive now with
    | true => exact ⟨rfl, h⟩
    | false =>
      refine ⟨rfl, fun k => ?_⟩
      simp only [Bool.false_eq_true, if_false, Table.find?_erase]
      split
      · rename_i heq
        subst heq
        rcases h k with hs | ⟨hn, -⟩
        · exact .inr ⟨rfl, e, hs ▸ hk, hx⟩
        · exact absurd (hk ▸ hn) (by simp)
      · exact h k

theorem loadAll (h : m.Holds es now) (keys : List Bytes) :
    (m.loadAll now keys).1 = keys.map (es.live? now) ∧ (m.loadAll now keys).2.Holds es now := by
  induction keys generalizing m with
  | nil => exact ⟨rfl, h⟩
  | cons key keys ih =>
    obtain ⟨h1, h2⟩ := h.load key
    obtain ⟨h3, h4⟩ := ih h2
    exact ⟨by simp [Memory.loadAll, h1, h3], h4⟩

/-- A command has the same reply on both, and leaves them related. -/
theorem serve (h : m.Holds es now) (c : Command) :
    (m.serve c now).1 = (es.serve c now).1 ∧ (m.serve c now).2.Holds (es.serve c now).2 now := by
  cases c with
  | connect | ready | close => exact ⟨rfl, h⟩
  | get key => exact h.load key
  | put key value => exact ⟨rfl, h.store key value none⟩
  | putWithTtl key value ttl => exact ⟨rfl, h.store key value (some ttl)⟩
  | compareAndSwap key expected new ttl =>
    simp only [Memory.serve, Memory.swap, Entries.serve, h.live? key]
    split
    · exact ⟨rfl, h.store key new ttl⟩
    · exact ⟨rfl, h⟩
  | delete key => exact ⟨rfl, h.erase key⟩
  | batchGet keys => exact h.loadAll keys
  | batchPut pairs =>
    refine ⟨rfl, ?_⟩
    simp only [Memory.serve, Entries.serve]
    exact List.foldl_rel (r := (Holds · · now)) h fun p _ _ _ hp =>
      hp.store p.1 p.2 none
  | batchDelete keys =>
    refine ⟨rfl, ?_⟩
    simp only [Memory.serve, Entries.serve]
    exact List.foldl_rel (r := (Holds · · now)) h fun key _ _ _ hk => hk.erase key

end Holds

/-! ## One key -/

end Memory

/-- What a command on data does to the entry of one key: nothing that depends on other keys. -/
def Command.onEntry (key : Bytes) (now : Reading) : Command → Option Entry → Option Entry
  | .connect, e | .ready, e | .close, e => e
  | .get k, e => if k = key then e.filter (·.isLive now) else e
  | .put k value, e => if k = key then some (.written value none now) else e
  | .putWithTtl k value ttl, e => if k = key then some (.written value (some ttl) now) else e
  | .compareAndSwap k expected new ttl, e =>
    if k = key ∧ (e.filter (·.isLive now)).map Entry.value = expected then
      some (.written new ttl now)
    else e
  | .delete k, e => if k = key then none else e
  | .batchGet ks, e => if ks.contains key then e.filter (·.isLive now) else e
  | .batchPut ps, e =>
    ps.foldl (fun e p => if p.1 = key then some (.written p.2 none now) else e) e
  | .batchDelete ks, e => if ks.contains key then none else e

namespace Memory

/-- The live value of a key is the value of its entry, if that is live. -/
theorem live?_eq (m : Memory) (key : Bytes) (now : Reading) :
    m.live? key now = ((m.entries.find? key).filter (·.isLive now)).map Entry.value := by
  rw [live?]
  cases m.entries.find? key with
  | none => rfl
  | some e => cases h : e.isLive now <;> simp [Option.filter_some, h]

/-- Reading takes out the entry of the key that is read, if it has expired. -/
theorem find?_load (m : Memory) (k : Bytes) (now : Reading) (key : Bytes) :
    (m.load k now).2.entries.find? key =
      if k = key then (m.entries.find? key).filter (·.isLive now) else m.entries.find? key := by
  rw [load]
  by_cases hk : k = key
  · subst hk
    cases he : m.entries.find? k with
    | none => simp [he]
    | some e => cases hx : e.isLive now <;> simp [he, hx, Option.filter_some, Table.find?_erase]
  · cases he : m.entries.find? k with
    | none => simp [hk]
    | some e => cases hx : e.isLive now <;> simp [hk, Ne.symm hk, hx, Table.find?_erase]

theorem find?_loadAll (m : Memory) (ks : List Bytes) (now : Reading) (key : Bytes) :
    (m.loadAll now ks).2.entries.find? key =
      if ks.contains key then (m.entries.find? key).filter (·.isLive now)
      else m.entries.find? key := by
  induction ks generalizing m with
  | nil => rfl
  | cons k ks ih =>
    rw [loadAll, ih, find?_load]
    by_cases hk : k = key
    · subst hk
      simp [Option.filter_filter]
    · simp [hk, Ne.symm hk]

/-- What a command does to the entry of a key. -/
theorem find?_serve (m : Memory) (c : Command) (now : Reading) (key : Bytes) :
    (m.serve c now).2.entries.find? key = c.onEntry key now (m.entries.find? key) := by
  cases c with
  | connect | ready | close => rfl
  | get k => exact m.find?_load k now key
  | put k value => simp only [serve, store, Command.onEntry, Table.find?_insert, eq_comm]
  | putWithTtl k value ttl => simp only [serve, store, Command.onEntry, Table.find?_insert, eq_comm]
  | compareAndSwap k expected new ttl =>
    simp only [serve, swap, Command.onEntry]
    by_cases hk : k = key
    · subst hk
      rw [live?_eq]
      split <;> simp_all [store, Table.find?_insert]
    · split <;> simp [store, Table.find?_insert, hk, Ne.symm hk]
  | delete k => simp only [serve, erase, Command.onEntry, Table.find?_erase, eq_comm]
  | batchGet ks => exact m.find?_loadAll ks now key
  | batchPut ps =>
    simp only [serve, Command.onEntry]
    induction ps generalizing m with
    | nil => rfl
    | cons p ps ih =>
      rw [List.foldl_cons, List.foldl_cons, ih, store, Table.find?_insert]
      simp only [eq_comm]
  | batchDelete ks =>
    simp only [serve, Command.onEntry]
    induction ks generalizing m with
    | nil => rfl
    | cons k ks ih =>
      rw [List.foldl_cons, ih, erase, Table.find?_erase]
      by_cases hk : key = k <;> simp [hk]

/-- No command on data opens or closes the store. -/
theorem isOpen_serve (m : Memory) (c : Command) (now : Reading) :
    (m.serve c now).2.isOpen = m.isOpen := by
  have load (m : Memory) (key : Bytes) : (m.load key now).2.isOpen = m.isOpen := by
    simp only [Memory.load]
    split
    · rfl
    · split <;> rfl
  cases c with
  | connect | ready | close | put | putWithTtl | delete => rfl
  | get key => exact load m key
  | compareAndSwap key expected new ttl =>
    simp only [Memory.serve, Memory.swap]
    split <;> rfl
  | batchGet keys =>
    simp only [Memory.serve]
    induction keys generalizing m with
    | nil => rfl
    | cons key keys ih => exact (ih _).trans (load m key)
  | batchPut pairs =>
    exact List.foldlRecOn pairs _ (motive := fun n : Memory => n.isOpen = m.isOpen) rfl
      fun _ h _ _ => h
  | batchDelete keys =>
    exact List.foldlRecOn keys _ (motive := fun n : Memory => n.isOpen = m.isOpen) rfl
      fun _ h _ _ => h

/-- A store that is open serves each command but those that open and close it. -/
theorem exec_of_open {m : Memory} {c : Command} (hc : c ≠ .connect) (hc' : c ≠ .close)
    (hm : m.isOpen = true) (now : Reading) :
    m.exec c now = (.ok (m.serve c now).1, (m.serve c now).2) := by
  cases c with
  | connect => exact absurd rfl hc
  | close => exact absurd rfl hc'
  | _ => simp [exec, hm]

/-- A store that is closed refuses them. -/
theorem exec_of_closed {m : Memory} {c : Command} (hc : c ≠ .connect) (hc' : c ≠ .close)
    (hm : m.isOpen = false) (now : Reading) : m.exec c now = (.error closed, m) := by
  cases c with
  | connect => exact absurd rfl hc
  | close => exact absurd rfl hc'
  | _ => simp [exec, hm]

end Memory

end KvBridge
