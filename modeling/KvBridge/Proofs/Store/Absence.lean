import KvBridge.Proofs.Store.Keyed
import Mathlib.Data.List.Forall2

/-!
# Keys that are absent stay absent

The store in memory takes an entry out when it finds it expired. So a key that was once read as
absent has no entry any more, and is read as absent by every later command until a value is written
for it, whatever the clock shows by then: a reading that goes back does not bring the entry back
(`Memory.absent_until_written`). What happens to one key depends on no other, so that reading a key,
which may take its entry out, shows in no answer about another key.

* `Command.Ended.readings`, `Command.Ended.Writes`: what a command read of a key, and whether it
  wrote a value for it;
* `Memory.readings_ended`: a command reads the live value of a key, in each place of it;
* `Memory.find?_exec`: what a command does to the entry of a key.
-/

namespace KvBridge

namespace Command

/-- The places in which a command reads a key. -/
def places (key : Bytes) : Command → Nat
  | .get k => if k = key then 1 else 0
  | .batchGet ks => ks.count key
  | _ => 0

/-- The command only reads. -/
def IsRead : Command → Prop
  | .get _ | .batchGet _ => True
  | _ => False

theorem IsRead.passes {c : Command} (h : c.IsRead) : c.Passes := by
  constructor <;> (rintro rfl; exact h)

/-- The command writes a value for a key whose live value is the one that was found. -/
def Sets (key : Bytes) (found : Option Bytes) : Command → Prop
  | .put k _ | .putWithTtl k _ _ => k = key
  | .compareAndSwap k expected _ _ => k = key ∧ found = expected
  | .batchPut ps => key ∈ ps.map Prod.fst
  | _ => False

namespace Ended

/-- What a command read of a key, place by place. -/
def readings (key : Bytes) : Command.Ended → List (Option Bytes)
  | ⟨.get k, some (.ok v, _)⟩ => if k = key then [v] else []
  | ⟨.batchGet ks, some (.ok vs, _)⟩ =>
    (ks.zip vs).filterMap fun p => if p.1 = key then some p.2 else none
  | _ => []

/-- The command wrote a value for a key. -/
def Writes (key : Bytes) : Command.Ended → Prop
  | ⟨.put k _, some (.ok _, _)⟩ | ⟨.putWithTtl k _ _, some (.ok _, _)⟩ => k = key
  | ⟨.compareAndSwap k _ _ _, some (.ok swap, _)⟩ => k = key ∧ swap.swapped = true
  | ⟨.batchPut ps, some (.ok _, _)⟩ => key ∈ ps.map Prod.fst
  | _ => False

/-- Two commands that ended tell the same of a key: they read the same of it, and a conditional
write of it ended in the same way. -/
structure AlikeOn (key : Bytes) (e e' : Command.Ended) : Prop where
  readings : e.readings key = e'.readings key
  writes : e.Writes key ↔ e'.Writes key
  swap : ∀ expected new ttl, e.1 = .compareAndSwap key expected new ttl → e = e'

end Ended

end Command

namespace Memory

variable {m m' : Memory} {c : Command} {now : Reading} {key : Bytes} {t : Tick}

/-- How a command ends that is given to the store. -/
def ended (m : Memory) (t : Tick) (now : Reading) (c : Command) : Command.Ended :=
  ⟨c, some ((m.exec c now).1, t)⟩

theorem play_cons (atomicSwap : Bool) (t : Tick) (now : Reading) (c : Command) (run : CommandRun)
    (m : Memory) : (driver atomicSwap).play t ((now, c) :: run) m =
      m.ended t now c :: (driver atomicSwap).play t run (m.exec c now).2 := rfl

/-! ## One command -/

/-- What a command does to the entry of a key; nothing, if the store is closed. -/
theorem find?_exec (m : Memory) (c : Command) (now : Reading) (key : Bytes) :
    (m.exec c now).2.entries.find? key =
      if m.isOpen then c.onEntry key now (m.entries.find? key) else m.entries.find? key := by
  by_cases hc : c = .connect
  · subst hc
    exact (ite_self _).symm
  by_cases hc' : c = .close
  · subst hc'
    exact (ite_self _).symm
  cases hm : m.isOpen with
  | true =>
    rw [exec_of_open hc hc' hm]
    exact m.find?_serve c now key
  | false =>
    rw [exec_of_closed hc hc' hm]
    rfl

theorem filterMap_zip_map (f : Bytes → Option Bytes) (key : Bytes) (ks : List Bytes) :
    ((ks.zip (ks.map f)).filterMap fun p => if p.1 = key then some p.2 else none) =
      List.replicate (ks.count key) (f key) := by
  induction ks with
  | nil => rfl
  | cons k ks ih =>
    rw [List.map_cons, List.zip_cons_cons, List.filterMap_cons, ih, List.count_cons]
    by_cases hk : k = key
    · subst hk
      simp [List.replicate_succ]
    · simp [hk]

/-- An open store reads the live value of a key in each place of it, and a closed one reads
nothing. -/
theorem readings_ended (m : Memory) (t : Tick) (now : Reading) (c : Command) (key : Bytes) :
    (m.ended t now c).readings key =
      if m.isOpen then List.replicate (c.places key) (m.live? key now) else [] := by
  cases hm : m.isOpen with
  | false =>
    cases c with
    | get | batchGet => simp [ended, Command.Ended.readings, exec, hm]
    | _ => rfl
  | true =>
    cases c with
    | get k =>
      rw [ended, keyed.get now k hm]
      simp only [Command.Ended.readings, Command.places]
      by_cases hk : k = key <;> simp [hk]
    | batchGet ks =>
      rw [ended, keyed.batchGet now ks hm]
      exact filterMap_zip_map _ key ks
    | _ => rfl

/-- An open store answers each command but the one that closes it. -/
theorem exec_isOk (hm : m.isOpen = true) (now : Reading) (hc : c ≠ .close) :
    ∃ r, (m.exec c now).1 = .ok r := by
  by_cases h : c = .connect
  · subst h
    exact ⟨(), rfl⟩
  · exact ⟨_, congrArg Prod.fst (exec_of_open h hc hm now)⟩

/-- A command that reads a key as absent leaves it without an entry. -/
theorem find?_exec_of_none_mem (h : none ∈ (m.ended t now c).readings key) :
    (m.exec c now).2.entries.find? key = none := by
  rw [readings_ended] at h
  cases hm : m.isOpen with
  | false => simp [hm] at h
  | true =>
    simp only [hm, if_true, List.mem_replicate] at h
    obtain ⟨read, absent⟩ := h
    have expired := absent.symm
    rw [live?_eq, Option.map_eq_none_iff] at expired
    rw [find?_exec, hm, if_pos rfl]
    cases c with
    | get k =>
      rw [Command.onEntry, expired]
      exact if_pos (Decidable.not_not.1 fun hk => read (if_neg hk))
    | batchGet ks =>
      rw [Command.onEntry, expired]
      exact if_pos (List.contains_iff_mem.2 (List.count_pos_iff.1 (Nat.pos_of_ne_zero read)))
    | connect | ready | close | put | putWithTtl | compareAndSwap | delete | batchPut
    | batchDelete => exact absurd rfl read

/-- A key is written by an open store, if the command sets it. -/
theorem writes_ended_iff :
    (m.ended t now c).Writes key ↔ m.isOpen = true ∧ c.Sets key (m.live? key now) := by
  cases hm : m.isOpen with
  | false => cases c <;> simp [ended, exec, hm, Command.Ended.Writes]
  | true =>
    cases c with
    | compareAndSwap k expected new ttl =>
      simp only [ended, exec, hm, if_true, serve, swap, Command.Ended.Writes, Command.Sets]
      rw [true_and]
      refine and_congr_right ?_
      rintro rfl
      split <;> simp [*]
    | _ => simp [ended, exec, hm, Command.Ended.Writes, Command.Sets]

/-- A command that writes no value for a key without an entry leaves it without one. -/
theorem find?_exec_of_not_writes (absent : m.entries.find? key = none)
    (h : ¬ (m.ended t now c).Writes key) : (m.exec c now).2.entries.find? key = none := by
  rw [find?_exec, absent]
  split
  · rename_i hm
    have dead : m.live? key now = none := by
      rw [live?_eq, absent]
      rfl
    rw [writes_ended_iff, hm, dead] at h
    have unset : ¬ c.Sets key none := fun sets => h ⟨rfl, sets⟩
    cases c with
    | connect | ready | close => rfl
    | get | delete | batchGet | batchDelete => exact ite_self _
    | put k value => exact if_neg unset
    | putWithTtl k value ttl => exact if_neg unset
    | compareAndSwap k expected new ttl => exact if_neg unset
    | batchPut ps =>
      refine List.foldlRecOn ps _ (motive := (· = none)) rfl fun e he p hp => ?_
      rw [if_neg, he]
      rintro rfl
      exact unset (List.mem_map_of_mem hp)
  · rfl

/-- Only two commands open or close a store. -/
theorem isOpen_exec_of_passes (hc : c.Passes) (m : Memory) (now : Reading) :
    (m.exec c now).2.isOpen = m.isOpen := by
  cases hm : m.isOpen with
  | true =>
    rw [exec_of_open hc.1 hc.2 hm]
    exact (isOpen_serve m c now).trans hm
  | false =>
    rw [exec_of_closed hc.1 hc.2 hm]
    exact hm

/-! ## One key in two stores -/

/-- Two stores have the same entry for a key. -/
structure AgreeOn (key : Bytes) (m m' : Memory) : Prop where
  isOpen : m.isOpen = m'.isOpen
  entry : m.entries.find? key = m'.entries.find? key

namespace AgreeOn

theorem live? (h : AgreeOn key m m') (now : Reading) : m.live? key now = m'.live? key now := by
  rw [live?_eq, live?_eq, h.entry]

theorem exec (h : AgreeOn key m m') (c : Command) (now : Reading) :
    AgreeOn key (m.exec c now).2 (m'.exec c now).2 where
  isOpen := by
    by_cases hc : c.Passes
    · rw [isOpen_exec_of_passes hc, isOpen_exec_of_passes hc, h.isOpen]
    · cases c with
      | connect | close => rfl
      | _ => exact absurd ⟨nofun, nofun⟩ hc
  entry := by rw [find?_exec, find?_exec, h.isOpen, h.entry]

/-- A command ends alike on the key. -/
theorem ended (h : AgreeOn key m m') (t : Tick) (now : Reading) (c : Command) :
    (m.ended t now c).AlikeOn key (m'.ended t now c) where
  readings := by rw [readings_ended, readings_ended, h.isOpen, h.live?]
  writes := by rw [writes_ended_iff, writes_ended_iff, h.isOpen, h.live?]
  swap := by
    rintro expected new ttl ⟨⟩
    simp only [Memory.ended, Memory.exec, serve, swap, h.isOpen, h.live? now]
    split
    · split <;> rfl
    · rfl

/-- The commands of a run end alike on the key. -/
theorem play (h : AgreeOn key m m') (atomicSwap : Bool) (t : Tick) (run : CommandRun) :
    List.Forall₂ (Command.Ended.AlikeOn key) ((driver atomicSwap).play t run m)
      ((driver atomicSwap).play t run m') := by
  induction run generalizing m m' with
  | nil => exact .nil
  | cons step run ih =>
    obtain ⟨now, c⟩ := step
    rw [play_cons, play_cons]
    exact .cons (h.ended t now c) (ih (h.exec c now))

/-- Reading other keys leaves the entry of a key. -/
theorem of_isRead (hc : c.IsRead) (h : c.places key = 0) (m : Memory) (now : Reading) :
    AgreeOn key m (m.exec c now).2 := by
  refine ⟨(isOpen_exec_of_passes hc.passes m now).symm, ?_⟩
  cases c with
  | get k =>
    have other : k ≠ key := fun hk => absurd h (by simp [Command.places, hk])
    rw [find?_exec, Command.onEntry, if_neg other, ite_self]
  | batchGet ks =>
    have others : ¬ ks.contains key = true := fun mem =>
      List.count_eq_zero.1 h (List.contains_iff_mem.1 mem)
    rw [find?_exec, Command.onEntry, if_neg others, ite_self]
  | connect | ready | close | put | putWithTtl | compareAndSwap | delete | batchPut
  | batchDelete => exact hc.elim

end AgreeOn

/-! ## Runs -/

/-- What is told at the end of a run is told by a run. -/
theorem eq_play_of_suffix {atomicSwap : Bool} {run : CommandRun} {es : List Command.Ended}
    (h : es <:+ (driver atomicSwap).play t run m) :
    ∃ run' m', es = (driver atomicSwap).play t run' m' := by
  induction run generalizing m with
  | nil => exact ⟨[], m, List.suffix_nil.1 h⟩
  | cons step run ih =>
    obtain ⟨now, c⟩ := step
    rw [play_cons, List.suffix_cons_iff] at h
    obtain rfl | h := h
    · exact ⟨(now, c) :: run, m, (play_cons ..).symm⟩
    · exact ih h

/-- A key without an entry is read as absent until it is written. -/
theorem readings_of_absent {atomicSwap : Bool} {run : CommandRun}
    {between rest : List Command.Ended} {e : Command.Ended} (absent : m.entries.find? key = none)
    (told : between ++ e :: rest = (driver atomicSwap).play t run m)
    (unwritten : ∀ d ∈ between, ¬ d.Writes key) : ∀ v ∈ e.readings key, v = none := by
  induction between generalizing run m with
  | nil =>
    cases run with
    | nil => cases told
    | cons step run =>
      obtain ⟨now, c⟩ := step
      rw [play_cons, List.nil_append, List.cons.injEq] at told
      obtain ⟨rfl, -⟩ := told
      intro v hv
      rw [readings_ended] at hv
      split at hv
      · rw [List.eq_of_mem_replicate hv, live?_eq, absent]
        rfl
      · cases hv
  | cons d between ih =>
    cases run with
    | nil => cases told
    | cons step run =>
      obtain ⟨now, c⟩ := step
      rw [play_cons, List.cons_append, List.cons.injEq] at told
      obtain ⟨rfl, told⟩ := told
      rw [List.forall_mem_cons] at unwritten
      exact ih (find?_exec_of_not_writes absent unwritten.1) told unwritten.2

/-- What one command reads of a key is the same in all places. -/
theorem readings_eq_of_mem {e : Command.Ended} {atomicSwap : Bool} {run : CommandRun}
    (h : e ∈ (driver atomicSwap).play t run m) {v w : Option Bytes} (hv : v ∈ e.readings key)
    (hw : w ∈ e.readings key) : v = w := by
  induction run generalizing m with
  | nil => cases h
  | cons step run ih =>
    obtain ⟨now, c⟩ := step
    rw [play_cons, List.mem_cons] at h
    obtain rfl | h := h
    · rw [readings_ended] at hv hw
      split at hv
      · rename_i hm
        rw [if_pos hm] at hw
        exact (List.eq_of_mem_replicate hv).trans (List.eq_of_mem_replicate hw).symm
      · cases hv
    · exact ih h

/-- A store that is not closed answers every command, and in each place that is read. -/
theorem answered_of_mem {e : Command.Ended} {atomicSwap : Bool} {run : CommandRun}
    (hm : m.isOpen = true) (hc : ∀ step ∈ run, step.2 ≠ .close)
    (h : e ∈ (driver atomicSwap).play t run m) (key : Bytes) :
    (∃ r, e.2 = some (.ok r, t)) ∧ (e.readings key).length = e.1.places key := by
  induction run generalizing m with
  | nil => cases h
  | cons step run ih =>
    obtain ⟨now, c⟩ := step
    rw [List.forall_mem_cons] at hc
    rw [play_cons, List.mem_cons] at h
    obtain rfl | h := h
    · obtain ⟨r, hr⟩ := exec_isOk hm now hc.1
      refine ⟨⟨r, congrArg (fun r => some (r, t)) hr⟩, ?_⟩
      rw [readings_ended, if_pos hm, List.length_replicate]
      rfl
    · exact ih (isOpen_exec hc.1 hm now) hc.2 h

/-- Once a key has been read as absent by a command of a run, it is read as absent by every later
one until a value is written for it, whatever the clock shows. The same holds of the places of one
batch. An open store answers every command, in each place that is read. A batch reads a key in each
place of it as it would be read alone, and what else is read before a run changes nothing that the
run tells of a key. -/
theorem absent_until_written (atomicSwap : Bool) (t : Tick) (run : CommandRun) (m : Memory)
    (key : Bytes) :
    let play := (driver atomicSwap).play t
    (∀ e between e', e :: (between ++ [e']) <:+: play run m → none ∈ e.readings key →
      (∀ d ∈ between, ¬ d.Writes key) → ∀ v ∈ e'.readings key, v = none) ∧
    (∀ e ∈ play run m, none ∈ e.readings key → ∀ v ∈ e.readings key, v = none) ∧
    (m.isOpen = true → (∀ step ∈ run, step.2 ≠ .close) → ∀ e ∈ play run m,
      (∃ r, e.2 = some (.ok r, t)) ∧ (e.readings key).length = e.1.places key) ∧
    (∀ now keys, (play [(now, .batchGet keys)] m).flatMap (·.readings key) =
      (List.replicate (keys.count key)
        ((play [(now, .get key)] m).flatMap (·.readings key))).flatten) ∧
    ∀ now c, c.IsRead → c.places key = 0 →
      List.Forall₂ (Command.Ended.AlikeOn key) (play run m) (play ((now, c) :: run) m).tail := by
  intro play
  refine ⟨fun e between e' within absent unwritten => ?_, fun e he absent v hv => ?_,
    fun hm hc e he => answered_of_mem hm hc he key, fun now keys => ?_,
    fun now c hc others => (AgreeOn.of_isRead hc others m now).play atomicSwap t run⟩
  · obtain ⟨before, rest, told⟩ := within
    have suffix : e :: (between ++ e' :: rest) <:+ play run m := ⟨before, by simp [← told]⟩
    obtain ⟨run', m', played⟩ := eq_play_of_suffix suffix
    cases run' with
    | nil => cases played
    | cons step run' =>
      obtain ⟨now, c⟩ := step
      rw [play_cons, List.cons.injEq] at played
      obtain ⟨rfl, played⟩ := played
      exact readings_of_absent (find?_exec_of_none_mem absent) played unwritten
  · exact readings_eq_of_mem he hv absent
  · have alone (c : Command) : (play [(now, c)] m).flatMap (·.readings key) =
        (m.ended t now c).readings key := List.append_nil _
    rw [alone, alone, readings_ended, readings_ended]
    split
    · simp [Command.places]
    · simp

/-- A value that has expired is read, and the clock is set back to before its deadline: it stays
absent, for a conditional write that expects it as well. -/
theorem absent_until_written_of_clock_set_back :
    let m : Memory := ⟨.empty, true⟩
    let run : CommandRun := [(10, .putWithTtl [1] [7] ⟨5000000⟩), (20, .get [1]),
      (3, .compareAndSwap [1] (some [7]) [9] none), (3, .batchGet [[2], [1], [1]])]
    let play := (driver true).play 0
    let read : Command.Ended := ⟨.get [1], some (.ok none, 0)⟩
    let swap : Command.Ended :=
      ⟨.compareAndSwap [1] (some [7]) [9] none, some (.ok ⟨none, false⟩, 0)⟩
    let batch : Command.Ended := ⟨.batchGet [[2], [1], [1]], some (.ok [none, none, none], 0)⟩
    read :: ([swap] ++ [batch]) <:+: play run m ∧ none ∈ read.readings [1] ∧
      (∀ d ∈ [swap], ¬ d.Writes [1]) ∧ (∀ v ∈ batch.readings [1], v = none) ∧
      m.isOpen = true ∧ (∀ step ∈ run, step.2 ≠ .close) ∧ batch ∈ play run m ∧
      (batch.readings [1]).length = 2 ∧
      Command.IsRead (.get [2]) ∧ Command.places [1] (.get [2]) = 0 ∧
      List.Forall₂ (Command.Ended.AlikeOn [1]) (play run m)
        (play ((9, .get [2]) :: run) m).tail := by
  intro m run play read swap batch
  have told : play run m = [⟨.putWithTtl [1] [7] ⟨5000000⟩, some (.ok (), 0)⟩, read, swap, batch] :=
    rfl
  have within : read :: ([swap] ++ [batch]) <:+: play run m :=
    told ▸ (List.suffix_cons _ _).isInfix
  have absent : none ∈ read.readings [1] := List.mem_singleton_self _
  have unwritten : ∀ d ∈ [swap], ¬ d.Writes [1] := by
    rintro d hd
    rw [List.mem_singleton.1 hd]
    exact fun writes => absurd writes.2 Bool.false_ne_true
  have unclosed : ∀ step ∈ run, step.2 ≠ .close := by decide
  have last : batch ∈ play run m := told ▸ List.mem_of_getLast? rfl
  obtain ⟨stays, -, answered, -, alike⟩ := absent_until_written true 0 run m [1]
  exact ⟨within, absent, unwritten, stays _ _ _ within absent unwritten, rfl, unclosed, last,
    (answered rfl unclosed batch last).2, trivial, rfl, alike 9 (.get [2]) trivial rfl⟩

end Memory

end KvBridge
