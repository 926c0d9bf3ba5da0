import KvBridge.Proofs.Store.Framing

/-!
# The store in memory and the embedded store answer alike

Both stores serve the commands of a run as a map of entries does: the one holds its entries up to
those that it has taken out because they have expired (`Memory.Holds`), the other frames them all
(`RawTable.Frames`). So every command is answered alike, and no header is ever found too short
(`answerAlike_of_fresh`). The readings of the clock must not decrease, and no value may be written
with a deadline of zero, which the embedded store cannot tell from one (`Memory.AvoidsZero`).
-/

namespace KvBridge

/-- The commands of a run, each with the reading at which it is given. -/
abbrev CommandRun := List (Reading × Command)

/-- A command of a run, how it ended, and at which tick if it did. -/
abbrev Command.Ended := (c : Command) × Option (Except Cause c.Reply × Tick)

/-- How the commands of a run end that are given to a driver one after the other. -/
def Driver.play {β : Type} (d : Driver (Clocked β)) (t : Tick) : CommandRun → β → List Command.Ended
  | [], _ => []
  | (now, c) :: run, b =>
    let o := (d.call c).run none t ⟨now, b⟩
    ⟨c, o.finished⟩ :: d.play t run o.state.store

theorem Reading.expiresAt_ne_zero {now : Reading} {ttl : Duration}
    (h : ¬ (now = 0 ∧ ttl.nanos < 1000000)) : now.expiresAt ttl ≠ 0 := by
  intro h0
  have hd := congrArg UInt64.toNat h0
  rw [Reading.toNat_expiresAt, Duration.toNat_wholeMillis, UInt64.size] at hd
  have hn : now.toNat = 0 := by
    simp only [UInt64.toNat_zero] at hd
    omega
  refine h ⟨UInt64.toNat_inj.1 hn, ?_⟩
  simp only [UInt64.toNat_zero] at hd
  omega

namespace Memory

/-- The span of life with which a command writes a value, if it writes one with a span. -/
def writtenTtl? (m : Memory) (c : Command) (now : Reading) : Option Duration :=
  if m.isOpen then
    match c with
    | .putWithTtl _ _ ttl => some ttl
    | .compareAndSwap key expected _ ttl => if m.live? key now = expected then ttl else none
    | _ => none
  else none

/-- No value is written with a deadline of zero: none with a span below a millisecond while the
clock shows zero. -/
def AvoidsZero : CommandRun → Memory → Prop
  | [], _ => True
  | (now, c) :: run, m =>
    (∀ ttl ∈ m.writtenTtl? c now, ¬ (now = 0 ∧ ttl.nanos < 1000000)) ∧
      AvoidsZero run (m.exec c now).2

instance : (run : CommandRun) → (m : Memory) → Decidable (AvoidsZero run m)
  | [], _ => .isTrue trivial
  | (now, c) :: run, m =>
    have := instDecidableAvoidsZero run (m.exec c now).2
    inferInstanceAs (Decidable (_ ∧ _))

end Memory

/-! ## The entries of a run have dates -/

namespace Entries.Dated

variable {es : Entries}

theorem empty : Entries.empty.Dated := nofun

theorem write (h : es.Dated) (key : Bytes) {e : Entry} (he : e.expiresAt ≠ some 0) :
    (es.write key e).Dated := by
  intro k e' hk
  simp only [Entries.write] at hk
  split at hk
  · cases hk
    exact he
  · exact h k e' hk

theorem erase (h : es.Dated) (key : Bytes) : (es.erase key).Dated := by
  intro k e hk
  simp only [Entries.erase] at hk
  split at hk
  · cases hk
  · exact h k e hk

theorem permanent (h : es.Dated) (key value : Bytes) {now : Reading} :
    (es.write key (.written value none now)).Dated := h.write key (by simp [Entry.written])

theorem written (h : es.Dated) (key value : Bytes) {ttl : Option Duration} {now : Reading}
    (ht : ∀ d, ttl = some d → ¬ (now = 0 ∧ d.nanos < 1000000)) :
    (es.write key (.written value ttl now)).Dated := by
  refine h.write key ?_
  cases ttl with
  | none => simp [Entry.written]
  | some d => simpa [Entry.written] using Reading.expiresAt_ne_zero (ht d rfl)

theorem serve {m : Memory} {now : Reading} {c : Command} (h : es.Dated) (hm : m.Holds es now)
    (ho : m.isOpen = true)
    (hw : ∀ ttl ∈ m.writtenTtl? c now, ¬ (now = 0 ∧ ttl.nanos < 1000000)) :
    (es.serve c now).2.Dated := by
  simp only [Memory.writtenTtl?, ho, if_true] at hw
  cases c with
  | connect | ready | close | get | batchGet => exact h
  | put key value => exact h.permanent key value
  | putWithTtl key value ttl => exact h.written key value (by simpa using hw)
  | compareAndSwap key expected new ttl =>
    simp only [Entries.serve]
    split
    · rename_i hx
      simp only [hm.live? key, hx, if_true] at hw
      exact h.written key new hw
    · exact h
  | delete key => exact h.erase key
  | batchPut pairs => exact List.foldlRecOn pairs _ h fun _ hp p _ => hp.permanent p.1 p.2
  | batchDelete keys => exact List.foldlRecOn keys _ h fun _ hk key _ => hk.erase key

end Entries.Dated

/-! ## The file of an embedded store -/

/-- The file of the store holds the entries of the map, whether it is open or not. -/
structure OnDisk.Has (w : OnDisk) (es : Entries) : Prop where
  isWithin : Disk.isWithin w.store.path = true
  table : ∃ t, RawTable.Frames t es ∧
    w.disk.find? (Disk.name w.store.path) = some ⟨true, some t⟩ ∧ w.store.isOpen = true ∨
    RawTable.Frames t es ∧ w.disk.opening? w.store.path = some t ∧ w.store.isOpen = false

namespace OnDisk.Has

variable {w : OnDisk} {es : Entries}

/-- A file that holds the entries and that nobody has open. -/
theorem closed {disk : Disk} {path : String} {t : RawTable} (ht : RawTable.Frames t es)
    (hp : Disk.isWithin path = true) :
    (⟨disk.keep path ⟨false, some t⟩, ⟨path, false⟩⟩ : OnDisk).Has es := by
  refine ⟨hp, t, .inr ⟨ht, ?_, rfl⟩⟩
  simp [Disk.opening?, hp, Disk.keep, Table.find?_insert]

/-- A file that holds the entries and is open here. -/
theorem opened {disk : Disk} {path : String} {t : RawTable} (ht : RawTable.Frames t es)
    (hp : Disk.isWithin path = true) :
    (⟨disk.keep path ⟨true, some t⟩, ⟨path, true⟩⟩ : OnDisk).Has es := by
  refine ⟨hp, t, .inl ⟨ht, ?_, rfl⟩⟩
  simp [Disk.keep, Table.find?_insert]

/-- Opening always succeeds. -/
theorem connect (h : w.Has es) :
    (Embedded.connect w).1 = .ok () ∧ (Embedded.connect w).2.Has es ∧
      (Embedded.connect w).2.store.isOpen = true := by
  obtain ⟨hp, t, ⟨-, -, ho⟩ | ⟨ht, hf, ho⟩⟩ := id h
  · simp only [Embedded.connect, ho, if_true]
    exact ⟨trivial, h, trivial⟩
  · simp only [Embedded.connect, ho, Bool.false_eq_true, if_false, hf]
    exact ⟨trivial, opened ht hp, trivial⟩

theorem table?_of_isOpen (h : w.Has es) (ho : w.store.isOpen = true) :
    ∃ t, Embedded.table? w = some t ∧ RawTable.Frames t es := by
  obtain ⟨-, t, ⟨ht, hf, -⟩ | ⟨-, -, hc⟩⟩ := h
  · exact ⟨t, by simp [Embedded.table?, ho, hf], ht⟩
  · rw [ho] at hc
    cases hc

theorem close (h : w.Has es) :
    (Embedded.close w).Has es ∧ (Embedded.close w).store.isOpen = false := by
  cases ho : w.store.isOpen with
  | true =>
    obtain ⟨t, hf, ht⟩ := h.table?_of_isOpen ho
    simp only [Embedded.close, hf]
    exact ⟨closed ht h.isWithin, trivial⟩
  | false =>
    simp only [Embedded.close, Embedded.table?, ho, Bool.false_eq_true, if_false]
    exact ⟨h, trivial⟩

end OnDisk.Has


/-! ## One command -/

/-- A command has the same reply from both stores when they are open or when it opens or closes
them, and is refused by both, which stay as they are, when they are closed. -/
structure AlikeAt (now : Reading) (c : Command) (m : Memory) (w : OnDisk) : Prop where
  isOpen : w.store.isOpen = m.isOpen
  served : m.isOpen = true ∨ c = .connect ∨ c = .close →
    ∃ r, (m.exec c now).1 = .ok r ∧ (Embedded.exec c now w).1 = .ok r
  refused : m.isOpen = false → c ≠ .connect → c ≠ .close →
    m.exec c now = (.error Memory.closed, m) ∧
      Embedded.exec c now w = (.error Embedded.notConnected, w)

/-- Both stores answer each command of a run alike. -/
def AnswerAlike : CommandRun → Memory → OnDisk → Prop
  | [], _, _ => True
  | (now, c) :: run, m, w =>
    AlikeAt now c m w ∧ AnswerAlike run (m.exec c now).2 (Embedded.exec c now w).2

/-- The stores hold the entries of one map, and either both are open or neither is. -/
structure Interchangeable (m : Memory) (w : OnDisk) (es : Entries) (now : Reading) : Prop where
  isOpen : w.store.isOpen = m.isOpen
  holds : m.Holds es now
  has : w.Has es
  dated : es.Dated

namespace Embedded

theorem exec_eq {c : Command} (hc : c ≠ .connect) (hc' : c ≠ .close) (now : Reading)
    (w : OnDisk) : exec c now w =
      match table? w with
      | none => (.error notConnected, w)
      | some t => ((serve c now t).1,
          { w with disk := w.disk.keep w.store.path ⟨true, some (serve c now t).2⟩ }) := by
  cases c with
  | connect => exact absurd rfl hc
  | close => exact absurd rfl hc'
  | _ => rfl

theorem exec_of_closed {w : OnDisk} {c : Command} (hc : c ≠ .connect) (hc' : c ≠ .close)
    (hw : w.store.isOpen = false) (now : Reading) : exec c now w = (.error notConnected, w) := by
  rw [exec_eq hc hc', table?, hw]
  rfl

end Embedded

/-- An open file serves each command with the entries of the map. -/
theorem OnDisk.Has.exec {w : OnDisk} {es : Entries} {c : Command} (h : w.Has es) (hz : es.Dated)
    (hc : c ≠ .connect) (hc' : c ≠ .close) (hw : w.store.isOpen = true) (now : Reading) :
    (Embedded.exec c now w).1 = .ok (es.serve c now).1 ∧
      (Embedded.exec c now w).2.Has (es.serve c now).2 ∧
      (Embedded.exec c now w).2.store.isOpen = true := by
  obtain ⟨t, hf, ht⟩ := h.table?_of_isOpen hw
  obtain ⟨hr, ht'⟩ := ht.serve hz c now
  obtain ⟨disk, path, isOpen⟩ := w
  cases hw
  rw [Embedded.exec_eq hc hc', hf]
  exact ⟨hr, opened ht' h.isWithin, rfl⟩

namespace Interchangeable

variable {m : Memory} {w : OnDisk} {es : Entries} {now : Reading}

theorem later {moment : Reading} (h : Interchangeable m w es now) (hm : now ≤ moment) :
    Interchangeable m w es moment := { h with holds := h.holds.later hm }

/-- A new store in memory and one on a new file. -/
theorem fresh {disk : Disk} {path : String} (hd : disk.opening? path = some .empty)
    (now : Reading) : Interchangeable .empty ⟨disk, path, false⟩ .empty now where
  isOpen := rfl
  holds := .empty now
  has := by
    refine ⟨?_, .empty, .inr ⟨.empty, hd, rfl⟩⟩
    unfold Disk.opening? at hd
    split at hd
    · rename_i hp
      exact hp
    · cases hd
  dated := .empty

/-- One command: both stores answer it alike, and hold the entries of one map again. -/
theorem exec (h : Interchangeable m w es now) (c : Command)
    (hw : ∀ ttl ∈ m.writtenTtl? c now, ¬ (now = 0 ∧ ttl.nanos < 1000000)) :
    AlikeAt now c m w ∧
      ∃ es', Interchangeable (m.exec c now).2 (Embedded.exec c now w).2 es' now := by
  by_cases hc : c = .connect
  · subst hc
    obtain ⟨hr, hs, ho⟩ := h.has.connect
    exact ⟨⟨h.isOpen, fun _ => ⟨(), rfl, hr⟩, fun _ hc _ => absurd rfl hc⟩,
      es, ho, h.holds.of_entries rfl, hs, h.dated⟩
  by_cases hc' : c = .close
  · subst hc'
    obtain ⟨hs, ho⟩ := h.has.close
    exact ⟨⟨h.isOpen, fun _ => ⟨(), rfl, rfl⟩, fun _ _ hc => absurd rfl hc⟩,
      es, ho, h.holds.of_entries rfl, hs, h.dated⟩
  cases ho : m.isOpen with
  | false =>
    have hm := Memory.exec_of_closed hc hc' ho now
    have hx := Embedded.exec_of_closed hc hc' (h.isOpen.trans ho) now
    refine ⟨⟨h.isOpen, fun hs => ?_, fun _ _ _ => ⟨hm, hx⟩⟩, es, ?_⟩
    · simp [ho, hc, hc'] at hs
    · rw [hm, hx]
      exact h
  | true =>
    have hm := Memory.exec_of_open hc hc' ho now
    obtain ⟨hr, hs, ho'⟩ := h.has.exec h.dated hc hc' (h.isOpen.trans ho) now
    obtain ⟨hr', hs'⟩ := h.holds.serve c
    rw [← hr'] at hr
    refine ⟨⟨h.isOpen, fun _ => ⟨_, by rw [hm], hr⟩, fun hs => ?_⟩, (es.serve c now).2, ?_⟩
    · cases ho.symm.trans hs
    · rw [hm]
      exact ⟨ho'.trans ((Memory.isOpen_serve m c now).trans ho).symm, hs', hs,
        h.dated.serve h.holds ho hw⟩

/-- A run: both stores answer each of its commands alike. -/
theorem answerAlike {run : CommandRun} (h : Interchangeable m w es now)
    (hr : ∀ moment ∈ run.map Prod.fst, now ≤ moment) (hs : (run.map Prod.fst).Pairwise (· ≤ ·))
    (hw : Memory.AvoidsZero run m) : AnswerAlike run m w := by
  induction run generalizing m w es now with
  | nil => trivial
  | cons step run ih =>
    obtain ⟨moment, c⟩ := step
    obtain ⟨hh, ht⟩ := List.pairwise_cons.1 hs
    have hm := h.later (hr moment (List.mem_cons_self ..))
    obtain ⟨ha, es', h'⟩ := hm.exec c hw.1
    exact ⟨ha, ih h' hh ht hw.2⟩

end Interchangeable

/-- On a new store in memory and on one on a new file, each command of a run is answered alike:
with the same reply from both, or with a refusal by both because they are closed. -/
theorem answerAlike_of_fresh {disk : Disk} {path : String}
    (hd : disk.opening? path = some .empty) {run : CommandRun}
    (hs : (run.map Prod.fst).Pairwise (· ≤ ·)) (hw : Memory.AvoidsZero run .empty) :
    AnswerAlike run .empty ⟨disk, path, false⟩ :=
  (Interchangeable.fresh hd 0).answerAlike (fun _ _ => UInt64.zero_le) hs hw

/-- Spans of life, one that has passed, a conditional write over it, a key that stands twice in a
batch, and a command to a store that is closed. -/
theorem answerAlike_of_fresh_at_deadline :
    let run : CommandRun := [
      (0, .get [1]), (0, .connect), (0, .putWithTtl [1] [7] ⟨1000000⟩), (1, .get [1]),
      (1, .compareAndSwap [1] none [8] (some ⟨0⟩)), (1, .batchPut [([2], [3]), ([2], [4])]),
      (2, .batchGet [[1], [2]]), (2, .close), (2, .delete [2])]
    (run.map Prod.fst).Pairwise (· ≤ ·) ∧ Memory.AvoidsZero run .empty ∧
      AnswerAlike run .empty ⟨.empty, "kv.redb", false⟩ := by
  intro run
  have hs : (run.map Prod.fst).Pairwise (· ≤ ·) := by decide
  have hw : Memory.AvoidsZero run .empty := by decide
  exact ⟨hs, hw, answerAlike_of_fresh (by rfl) hs hw⟩

end KvBridge
