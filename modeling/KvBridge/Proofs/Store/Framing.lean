import KvBridge.Proofs.Store.Codec
import KvBridge.Proofs.Store.Entries
import KvBridge.Store.Embedded

/-!
# Entries behind headers

An embedded store keeps each value behind a header, and never takes out what has expired. A table
that frames the entries of a map, none of which has a deadline of zero (`Entries.Dated`), serves
each command as the map does (`RawTable.Frames.serve`).
-/

namespace KvBridge

/-- No deadline is zero. -/
def Entries.Dated (es : Entries) : Prop := ∀ key e, es key = some e → e.expiresAt ≠ some 0

/-- The table holds the entries of the map, each value behind the header of its deadline. -/
def RawTable.Frames (t : RawTable) (es : Entries) : Prop :=
  ∀ key, t.find? key = (es key).map fun e => Record.encode e.value e.expiresAt

namespace RawTable.Frames

variable {t : RawTable} {es : Entries}

theorem empty : RawTable.Frames Table.empty .empty := fun _ => rfl

theorem write (h : t.Frames es) (key value : Bytes) (expiresAt : Option Reading) :
    RawTable.Frames (Embedded.write t key value expiresAt) (es.write key ⟨value, expiresAt⟩) := by
  intro k
  simp only [Embedded.write, Entries.write, Table.find?_insert]
  split
  · rfl
  · exact h k

theorem erase (h : t.Frames es) (key : Bytes) :
    RawTable.Frames (Table.erase t key) (es.erase key) := by
  intro k
  simp only [Entries.erase, Table.find?_erase]
  split
  · rfl
  · exact h k

/-- Reading never fails for the header, and gives the live value. -/
theorem read (h : t.Frames es) (hz : es.Dated) (now : Reading) (key : Bytes) :
    Embedded.read t now key = .ok (es.live? now key) := by
  simp only [Embedded.read, h key, Entries.live?]
  cases he : es key with
  | none => rfl
  | some e =>
    simp only [Option.map_some, Record.live_encode, Record.map_readBack (hz key e he)]
    rfl

/-- A command has the same reply on both, and leaves a table that frames what it leaves of the
map. -/
theorem serve (h : t.Frames es) (hz : es.Dated) (c : Command) (now : Reading) :
    (Embedded.serve c now t).1 = .ok (es.serve c now).1 ∧
      RawTable.Frames (Embedded.serve c now t).2 (es.serve c now).2 := by
  cases c with
  | connect | ready | close => exact ⟨rfl, h⟩
  | get key => exact ⟨h.read hz now key, h⟩
  | put key value => exact ⟨rfl, h.write key value none⟩
  | putWithTtl key value ttl => exact ⟨rfl, h.write key value (some (now.expiresAt ttl))⟩
  | compareAndSwap key expected new ttl =>
    simp only [Embedded.serve, Embedded.swap, h.read hz now key, Entries.serve]
    split
    · exact ⟨rfl, h.write key new (ttl.map now.expiresAt)⟩
    · exact ⟨rfl, h⟩
  | delete key => exact ⟨rfl, h.erase key⟩
  | batchGet keys =>
    refine ⟨?_, h⟩
    simp only [Embedded.serve, Entries.serve]
    induction keys with
    | nil => rfl
    | cons key keys ih =>
      rw [List.mapM_cons, h.read hz now key, ih]
      rfl
  | batchPut pairs =>
    exact ⟨rfl, List.foldl_rel h fun p _ _ _ hp => hp.write p.1 p.2 none⟩
  | batchDelete keys =>
    exact ⟨rfl, List.foldl_rel h fun key _ _ _ hk => hk.erase key⟩

end RawTable.Frames

end KvBridge
