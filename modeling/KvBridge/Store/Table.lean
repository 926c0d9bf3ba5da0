/-!
# Finite maps

A table holds at most one value for each key.

* `Table.find?`, `Table.insert`, `Table.erase`, with `find?_insert` and `find?_erase`;
* `Table.mem_entries`: the entries are the keys with their values;
* `Table.size`: the number of keys.
-/

namespace KvBridge

/-- A finite map. The entries are in no order that matters, and no key stands twice. -/
structure Table (κ ν : Type) where
  entries : List (κ × ν)
  nodup : (entries.map Prod.fst).Nodup

namespace Table

variable {κ ν : Type} [DecidableEq κ]

def empty : Table κ ν := ⟨[], List.nodup_nil⟩

instance : Inhabited (Table κ ν) := ⟨empty⟩

/-- The value of a key. -/
def find? (t : Table κ ν) (k : κ) : Option ν := t.entries.lookup k

/-- The entries of other keys. -/
private def others (k : κ) (es : List (κ × ν)) : List (κ × ν) := es.filter fun e => e.1 != k

private theorem nodup_others (k : κ) {es : List (κ × ν)} (h : (es.map Prod.fst).Nodup) :
    ((others k es).map Prod.fst).Nodup :=
  h.sublist (List.filter_sublist.map _)

/-- Takes a key out. -/
def erase (t : Table κ ν) (k : κ) : Table κ ν := ⟨others k t.entries, nodup_others k t.nodup⟩

/-- Sets the value of a key. -/
def insert (t : Table κ ν) (k : κ) (v : ν) : Table κ ν where
  entries := (k, v) :: others k t.entries
  nodup := by
    rw [List.map_cons, List.nodup_cons]
    refine ⟨fun hk => ?_, nodup_others k t.nodup⟩
    obtain ⟨e, he, rfl⟩ := List.mem_map.1 hk
    simp [others] at he

/-- The number of keys. -/
def size (t : Table κ ν) : Nat := t.entries.length

/-- The number of keys whose values have a property. -/
def count (t : Table κ ν) (p : ν → Bool) : Nat := t.entries.countP fun e => p e.2

theorem lookup_cons_eq [BEq κ] [LawfulBEq κ] (k' j : κ) (v : ν) (es : List (κ × ν)) :
    ((j, v) :: es).lookup k' = if k' = j then some v else es.lookup k' := by
  rw [List.lookup_cons]
  split <;> rename_i h
  · simp_all
  · simp_all

private theorem lookup_others (k : κ) (es : List (κ × ν)) (k' : κ) :
    (others k es).lookup k' = if k' = k then none else es.lookup k' := by
  induction es with
  | nil => simp [others]
  | cons e es ih =>
    obtain ⟨j, v⟩ := e
    rw [lookup_cons_eq]
    by_cases hj : j = k
    · have : others k ((j, v) :: es) = others k es := by simp [others, hj]
      rw [this, ih, hj]
      split <;> rfl
    · have : others k ((j, v) :: es) = (j, v) :: others k es := by simp [others, hj]
      rw [this, lookup_cons_eq, ih]
      by_cases hk : k' = j
      · subst hk; simp [hj]
      · simp [hk]

@[simp] theorem find?_empty (k : κ) : (empty : Table κ ν).find? k = none := rfl

theorem find?_erase (t : Table κ ν) (k k' : κ) :
    (t.erase k).find? k' = if k' = k then none else t.find? k' :=
  lookup_others k t.entries k'

theorem find?_insert (t : Table κ ν) (k : κ) (v : ν) (k' : κ) :
    (t.insert k v).find? k' = if k' = k then some v else t.find? k' := by
  unfold find? insert
  rw [lookup_cons_eq, lookup_others]
  split <;> rfl

/-- Of two values that are set for one key the second stays. -/
theorem insert_insert (t : Table κ ν) (k : κ) (v w : ν) :
    (t.insert k v).insert k w = t.insert k w := by
  have h : others k ((k, v) :: others k t.entries) = others k t.entries := by
    simp [others, List.filter_filter]
  simp only [insert, h]

/-- In a list in which no key stands twice, a key has the value that stands beside it. -/
theorem lookup_eq_some_iff [BEq κ] [LawfulBEq κ] {es : List (κ × ν)}
    (h : (es.map Prod.fst).Nodup) (k : κ) (v : ν) : es.lookup k = some v ↔ (k, v) ∈ es := by
  induction es with
  | nil => simp
  | cons e es ih =>
    obtain ⟨j, w⟩ := e
    rw [List.map_cons, List.nodup_cons] at h
    rw [lookup_cons_eq, List.mem_cons]
    split
    · rename_i hk
      subst hk
      have hn : (k, v) ∉ es := fun hm => h.1 (List.mem_map.2 ⟨_, hm, rfl⟩)
      simp [hn, eq_comm]
    · rename_i hk
      simp [ih h.2, hk]

theorem mem_entries (t : Table κ ν) (k : κ) (v : ν) :
    (k, v) ∈ t.entries ↔ t.find? k = some v :=
  (lookup_eq_some_iff t.nodup k v).symm

end Table

end KvBridge
