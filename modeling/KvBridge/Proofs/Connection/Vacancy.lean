import KvBridge.Proofs.Connection.Reached
import KvBridge.Proofs.Store.Entries

/-!
# Keys that are vacant and keys that are held

Over a connection to a store in memory a key is vacant while it has no live value (`Link.Vacant`),
and held while it has a value that never expires (`Link.Held`). Time changes neither, nor do
commands that spare the key (`Command.Spares`), nor does reading it. Adding a value for the key by
a conditional write takes a vacant key (`Link.Vacant.swap`) and leaves one that is held
(`Link.Held.swap`).
-/

namespace KvBridge

/-! ## Commands that spare a key -/

/-- The command concerns only other keys, and does not close the store. -/
def Command.Spares (key : Bytes) : Command → Prop
  | .connect | .ready => True
  | .close => False
  | .get k | .put k _ | .putWithTtl k _ _ | .compareAndSwap k _ _ _ | .delete k => key ≠ k
  | .batchGet ks | .batchDelete ks => key ∉ ks
  | .batchPut ps => key ∉ ps.map Prod.fst

/-- A command that spares a key does nothing to its entry. -/
theorem Command.onEntry_of_spares {key : Bytes} {c : Command} (h : c.Spares key) (now : Reading)
    (e : Option Entry) : c.onEntry key now e = e := by
  cases c with
  | connect | ready | close => rfl
  | get k | put k | putWithTtl k | delete k => exact if_neg (Ne.symm h)
  | compareAndSwap k => exact if_neg fun hk => h hk.1.symm
  | batchGet ks | batchDelete ks => exact if_neg fun hk => h (List.contains_iff_mem.1 hk)
  | batchPut ps =>
    refine List.foldlRecOn ps _ (motive := (· = e)) rfl fun found hf p hp => ?_
    have hk : p.1 ≠ key := by
      rintro rfl
      exact h (List.mem_map_of_mem hp)
    rw [if_neg hk, hf]

namespace Memory

/-- A command that spares a key leaves its entry. -/
theorem find?_serve_of_spares {key : Bytes} {c : Command} (h : c.Spares key) (m : Memory)
    (now : Reading) : (m.serve c now).2.entries.find? key = m.entries.find? key := by
  rw [find?_serve, Command.onEntry_of_spares h]

/-- The store is open. -/
abbrev IsOpen (m : Memory) : Prop := m.isOpen = true

end Memory

/-! ## The key -/

/-- The same link, at the same or a later reading of the clock. -/
def Link.Ages {β : Type} (l l' : Link (Clocked β)) : Prop :=
  ∃ now, l.store.now ≤ now ∧ l' = l.showing now

namespace Link

variable {l l' : Link (Clocked Memory)} {key value : Bytes}

/-- The client is up, and the key has no live value. -/
structure Vacant (key : Bytes) (l : Link (Clocked Memory)) : Prop where
  up : l.Up Memory.IsOpen
  free : l.store.store.live? key l.store.now = none

/-- The client is up, and the key has a value that never expires. -/
structure Held (key value : Bytes) (l : Link (Clocked Memory)) : Prop where
  up : l.Up Memory.IsOpen
  entry : l.store.store.entries.find? key = some ⟨value, none⟩

/-- The client stays up, and the entry of the key stays as it is. -/
structure Spares (key : Bytes) (l l' : Link (Clocked Memory)) : Prop where
  up : l'.Up Memory.IsOpen
  now : l'.store.now = l.store.now
  entry : l'.store.store.entries.find? key = l.store.store.entries.find? key

theorem Up.spares (h : l.Up Memory.IsOpen) (key : Bytes) : l.Spares key l := ⟨h, rfl, rfl⟩

theorem Up.spares_served (h : l.Up Memory.IsOpen) {c : Command} (hc : c.Spares key) :
    l.Spares key (l.served Memory.exec c) := by
  have hn : c ≠ .close := fun he => by subst he; exact hc
  refine ⟨Connection.up_served Memory.keyed h hn, rfl, ?_⟩
  by_cases he : c = .connect
  · subst he
    rfl
  · simp only [Link.served, Memory.exec_of_open he hn h.isOpen]
    exact Memory.find?_serve_of_spares hc _ _

theorem Vacant.spares (h : l.Vacant key) (hs : l.Spares key l') : l'.Vacant key := by
  refine ⟨hs.up, ?_⟩
  rw [Memory.live?, hs.entry, hs.now]
  exact h.free

theorem Held.spares (h : l.Held key value) (hs : l.Spares key l') : l'.Held key value :=
  ⟨hs.up, hs.entry.trans h.entry⟩

/-- A key that has no live value does not come to have one as time passes. -/
theorem Vacant.ages (h : l.Vacant key) (ha : l.Ages l') : l'.Vacant key := by
  obtain ⟨now, hn, rfl⟩ := ha
  refine ⟨h.up.showing now, ?_⟩
  have hl := (l.store.store.holds_self l.store.now).later hn
  have hf := h.free
  rw [(l.store.store.holds_self l.store.now).live?] at hf
  show l.store.store.live? key now = none
  rw [hl.live?]
  simp only [Entries.live?] at hf ⊢
  split <;> rename_i he
  · simp only [he, ite_eq_right_iff, reduceCtorEq, imp_false, Bool.not_eq_true] at hf
    simp only [Entry.isLive_later hn hf, Bool.false_eq_true, if_false]
  · rfl

theorem Held.ages (h : l.Held key value) (ha : l.Ages l') : l'.Held key value := by
  obtain ⟨now, -, rfl⟩ := ha
  exact ⟨h.up.showing now, h.entry⟩

theorem Held.live? (h : l.Held key value) :
    l.store.store.live? key l.store.now = some value := by
  simp [Memory.live?, h.entry, Entry.isLive]

/-- Adding a value for a key that has none. -/
theorem Vacant.swap (h : l.Vacant key) (value : Bytes) :
    (Memory.exec (.compareAndSwap key none value none) l.store.now l.store.store).1 =
        .ok ⟨none, true⟩ ∧
      (l.served Memory.exec (.compareAndSwap key none value none)).Held key value := by
  have he := Memory.exec_of_open (c := .compareAndSwap key none value none) nofun nofun h.up.isOpen
    l.store.now
  simp only [Memory.serve, Memory.swap, h.free, if_true] at he
  refine ⟨congrArg Prod.fst he, Connection.up_served Memory.keyed h.up nofun, ?_⟩
  simp only [Link.served, he, Memory.store, Table.find?_insert, if_true]
  rfl

/-- Adding a value for a key that has one. -/
theorem Held.swap (h : l.Held key value) (new : Bytes) :
    (Memory.exec (.compareAndSwap key none new none) l.store.now l.store.store).1 =
        .ok ⟨some value, false⟩ ∧
      (l.served Memory.exec (.compareAndSwap key none new none)).Held key value := by
  have he := Memory.exec_of_open (c := .compareAndSwap key none new none) nofun nofun h.up.isOpen
    l.store.now
  simp only [Memory.serve, Memory.swap, h.live?, reduceCtorEq, if_false] at he
  refine ⟨congrArg Prod.fst he, Connection.up_served Memory.keyed h.up nofun, ?_⟩
  simp only [Link.served, he]
  exact h.entry

/-- Reading a key that has no value, which may take out an entry that has expired. -/
theorem Vacant.get (h : l.Vacant key) : (l.served Memory.exec (.get key)).Vacant key := by
  have he := Memory.exec_of_open (c := .get key) nofun nofun h.up.isOpen l.store.now
  refine ⟨Connection.up_served Memory.keyed h.up nofun, ?_⟩
  have hm := l.store.store.holds_self l.store.now
  simp only [Link.served, he, Memory.serve, (hm.load key).2.live?]
  rw [← hm.live?]
  exact h.free

/-- Reading a key that has a value. -/
theorem Held.get (h : l.Held key value) :
    (Memory.exec (.get key) l.store.now l.store.store).1 = .ok (some value) ∧
      (l.served Memory.exec (.get key)).Held key value := by
  have he := Memory.exec_of_open (c := .get key) nofun nofun h.up.isOpen l.store.now
  simp only [Memory.serve, Memory.load, h.entry, Entry.isLive, Option.all_none, if_true] at he
  refine ⟨congrArg Prod.fst he, Connection.up_served Memory.keyed h.up nofun, ?_⟩
  simp only [Link.served, he]
  exact h.entry

end Link

end KvBridge
