import KvBridge.Proofs.Store.Postgres.Plain
import KvBridge.Store.Postgres.Driver

/-!
# Batches as sets of rows

A statement that writes several rows may write none of them twice, so a client sends only the last
pair of each key, in reverse. The keys that it sends are different (`nodup_lastWrites`), and the
rows are the same afterwards as if each pair had been written in turn (`writeAll_lastWrites`). Rows
come back in any order; `realign_pairs` says that each key gets the value of its row.
-/

namespace KvBridge.Postgres

/-! ## The last writes of a batch -/

/-- The pairs that are kept are those of keys not seen yet, the first of each key. -/
theorem lookup_lastWritesFrom (seen : List Bytes) (ps : List (Bytes × Bytes)) (k : Bytes) :
    (lastWritesFrom seen ps).lookup k = if k ∈ seen then none else ps.lookup k := by
  induction ps generalizing seen with
  | nil => simp [lastWritesFrom]
  | cons p ps ih =>
    obtain ⟨j, v⟩ := p
    simp only [lastWritesFrom, List.contains_iff_mem]
    rw [Table.lookup_cons_eq]
    split
    · rename_i hj
      rw [ih]
      by_cases hk : k ∈ seen
      · simp [hk]
      · have hne : k ≠ j := fun h => hk (h ▸ hj)
        simp [hk, hne]
    · rename_i hj
      rw [Table.lookup_cons_eq, ih]
      by_cases hk : k = j
      · subst hk
        simp [hj]
      · simp [hk]

theorem keys_lastWritesFrom (seen : List Bytes) (ps : List (Bytes × Bytes)) :
    ((lastWritesFrom seen ps).map Prod.fst).Nodup ∧
      ∀ k ∈ (lastWritesFrom seen ps).map Prod.fst, k ∉ seen := by
  induction ps generalizing seen with
  | nil => simp [lastWritesFrom]
  | cons p ps ih =>
    simp only [lastWritesFrom, List.contains_iff_mem]
    split
    · exact ih seen
    · rename_i hp
      obtain ⟨hn, hs⟩ := ih (p.1 :: seen)
      rw [List.map_cons, List.nodup_cons, List.forall_mem_cons]
      exact ⟨⟨fun hm => hs _ hm (List.mem_cons_self ..), hn⟩, hp,
        fun k hk hm => hs k hk (List.mem_cons_of_mem _ hm)⟩

/-- No pair is added. -/
theorem lastWritesFrom_sublist (seen : List Bytes) (ps : List (Bytes × Bytes)) :
    (lastWritesFrom seen ps).Sublist ps := by
  induction ps generalizing seen with
  | nil => exact .slnil
  | cons p ps ih =>
    simp only [lastWritesFrom]
    split
    · exact (ih seen).cons p
    · exact (ih (p.1 :: seen)).cons_cons p

theorem mem_of_mem_lastWrites {p : Bytes × Bytes} {ps : List (Bytes × Bytes)}
    (h : p ∈ lastWrites ps) : p ∈ ps :=
  List.mem_reverse.1 ((lastWritesFrom_sublist [] ps.reverse).mem h)

/-- No key is sent twice. -/
theorem nodup_lastWrites (ps : List (Bytes × Bytes)) : ((lastWrites ps).map Prod.fst).Nodup :=
  (keys_lastWritesFrom [] ps.reverse).1

/-- A key is sent with its last value. -/
theorem lookup_lastWrites (ps : List (Bytes × Bytes)) (k : Bytes) :
    (lastWrites ps).lookup k = ps.reverse.lookup k := by
  rw [lastWrites, lookup_lastWritesFrom]
  simp

/-- In a list without repeated keys the order makes no difference to what a key is found with. -/
theorem lookup_perm {ps qs : List (Bytes × Bytes)} (h : (ps.map Prod.fst).Nodup) (hq : qs.Perm ps)
    (k : Bytes) : qs.lookup k = ps.lookup k := by
  refine Option.ext fun v => ?_
  rw [Table.lookup_eq_some_iff ((hq.map Prod.fst).nodup_iff.2 h), Table.lookup_eq_some_iff h,
    hq.mem_iff]

/-- It may be looked up from either end. -/
theorem lookup_reverse {ps : List (Bytes × Bytes)} (h : (ps.map Prod.fst).Nodup) (k : Bytes) :
    ps.reverse.lookup k = ps.lookup k :=
  lookup_perm h (List.reverse_perm ps) k

/-- The last row that is written for a key stays. -/
theorem RowMap.writeAll_apply (t : RowMap) (ps : List (Bytes × Bytes)) (k : Bytes) :
    t.writeAll ps k = match ps.reverse.lookup k with
      | some v => some ⟨v, none⟩
      | none => t k := by
  induction ps generalizing t with
  | nil => rfl
  | cons p ps ih =>
    rw [writeAll_cons, ih, List.reverse_cons, List.lookup_append]
    cases ps.reverse.lookup k with
    | some v => simp
    | none =>
      obtain ⟨j, v⟩ := p
      simp only [Option.none_or, write, Table.lookup_cons_eq]
      split <;> rfl

/-- Writing the last pair of each key leaves the same rows as writing all pairs in order. -/
theorem writeAll_lastWrites (t : RowMap) (ps : List (Bytes × Bytes)) :
    t.writeAll (lastWrites ps) = t.writeAll ps := by
  funext k
  rw [RowMap.writeAll_apply, RowMap.writeAll_apply, lookup_reverse (nodup_lastWrites ps),
    lookup_lastWrites]

/-! ## Rows in any order -/

theorem rowValue?_pairs (ps : List (Bytes × Bytes)) (key : Bytes) :
    rowValue? (ps.map fun p => [p.1, p.2]) key = ps.reverse.lookup key := by
  rw [rowValue?, ← List.map_reverse, List.findSome?_map]
  induction ps.reverse with
  | nil => rfl
  | cons p ps ih =>
    obtain ⟨k, v⟩ := p
    rw [List.findSome?_cons, Table.lookup_cons_eq, ih]
    by_cases hk : k = key
    · simp [hk]
    · simp [hk, Ne.symm hk]

/-- Rows with different keys give each key the value that stands beside it. -/
theorem realign_pairs {ps : List (Bytes × Bytes)} (h : (ps.map Prod.fst).Nodup)
    (keys : List Bytes) :
    realign keys (ps.map fun p => [p.1, p.2]) = keys.map fun key => ps.lookup key := by
  rw [realign, List.map_inj_left]
  exact fun key _ => (rowValue?_pairs ps key).trans (lookup_reverse h key)

end KvBridge.Postgres
