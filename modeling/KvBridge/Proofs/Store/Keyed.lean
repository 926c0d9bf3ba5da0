import KvBridge.Proofs.Store.Interchange

/-!
# Values by key

What a store that can always be opened does key by key (`Keyed`): an open store answers a read with
the live value of the key, writing and deleting change what is read of that key alone, and a batch
does what its parts do one after the other. The store in memory is such a store (`Memory.keyed`),
and so is the embedded store, whose file holds nothing but values with headers (`Embedded.keyed`).
-/

namespace KvBridge

/-- The store that commands leave one after the other. -/
def Command.leave {β : Type} (exec : (c : Command) → Reading → β → Except Cause c.Reply × β)
    (now : Reading) (cs : List Command) (b : β) : β := cs.foldl (fun b c => (exec c now b).2) b

theorem Command.leave_cons {β : Type}
    (exec : (c : Command) → Reading → β → Except Cause c.Reply × β) (now : Reading) (c : Command)
    (cs : List Command) (b : β) : leave exec now (c :: cs) b = leave exec now cs (exec c now b).2 :=
  rfl

/-- The command neither opens nor closes the store. -/
def Command.Passes (c : Command) : Prop := c ≠ .connect ∧ c ≠ .close

theorem Command.passes_puts (ps : List (Bytes × Bytes)) :
    ∀ c ∈ ps.map fun p => Command.put p.1 p.2, c.Passes :=
  List.forall_mem_map.2 fun _ _ => ⟨nofun, nofun⟩

theorem Command.passes_deletes (keys : List Bytes) : ∀ c ∈ keys.map Command.delete, c.Passes :=
  List.forall_mem_map.2 fun _ _ => ⟨nofun, nofun⟩

/-- What a store does key by key. A store that is sound can be opened, and stays sound. -/
structure Keyed {β : Type} (exec : (c : Command) → Reading → β → Except Cause c.Reply × β)
    (sound isOpen : β → Prop) (live? : β → Reading → Bytes → Option Bytes) : Prop where
  sound_of_isOpen : ∀ {b}, isOpen b → sound b
  connect : ∀ {b} now, sound b → (exec .connect now b).1 = .ok () ∧ isOpen (exec .connect now b).2
  ready : ∀ {b} now, isOpen b → (exec .ready now b).1 = .ok ()
  sound_exec : ∀ {b} c now, sound b → sound (exec c now b).2
  isOpen_exec : ∀ {b} c now, c ≠ .close → isOpen b → isOpen (exec c now b).2
  get : ∀ {b} now key, isOpen b → (exec (.get key) now b).1 = .ok (live? b now key)
  put : ∀ {b} now key value, isOpen b → (exec (.put key value) now b).1 = .ok () ∧
    ∀ later k, live? (exec (.put key value) now b).2 later k =
      if k = key then some value else live? b later k
  delete : ∀ {b} now key, isOpen b → (exec (.delete key) now b).1 = .ok () ∧
    ∀ later k, live? (exec (.delete key) now b).2 later k =
      if k = key then none else live? b later k
  batchGet : ∀ {b} now keys, isOpen b →
    (exec (.batchGet keys) now b).1 = .ok (keys.map (live? b now))
  batchPut : ∀ {b} now ps, isOpen b → ps ≠ [] → exec (.batchPut ps) now b =
    (.ok (), Command.leave exec now (ps.map fun p => .put p.1 p.2) b)
  batchDelete : ∀ {b} now keys, isOpen b → keys ≠ [] → exec (.batchDelete keys) now b =
    (.ok (), Command.leave exec now (keys.map .delete) b)

/-! ## The store in memory -/

namespace Memory

variable {m : Memory}

/-- The store has its own entries. -/
theorem holds_self (m : Memory) (now : Reading) : m.Holds m.entries.find? now := fun _ => .inl rfl

theorem live?_store (m : Memory) (key value : Bytes) (now later : Reading) (k : Bytes) :
    (m.store key value none now).live? k later =
      if k = key then some value else m.live? k later := by
  simp only [live?, store, Table.find?_insert]
  by_cases hk : k = key
  · simp only [hk, if_true]
    rfl
  · simp only [hk, if_false]

theorem live?_erase (m : Memory) (key : Bytes) (later : Reading) (k : Bytes) :
    (m.erase key).live? k later = if k = key then none else m.live? k later := by
  simp only [live?, erase, Table.find?_erase]
  by_cases hk : k = key <;> simp only [hk, if_true, if_false]

theorem isOpen_exec {c : Command} (hc : c ≠ .close) (hm : m.isOpen = true) (now : Reading) :
    (m.exec c now).2.isOpen = true := by
  by_cases h : c = .connect
  · subst h
    rfl
  · rw [exec_of_open h hc hm]
    exact (isOpen_serve m c now).trans hm

/-- An open store does the parts of a batch one after the other. -/
theorem leave_of_open (hm : m.isOpen = true) (now : Reading) {cs : List Command}
    (hc : ∀ c ∈ cs, c.Passes) :
    Command.leave exec now cs m =
      cs.foldl (fun m c => (m.serve c now).2) m := by
  induction cs generalizing m with
  | nil => rfl
  | cons c cs ih =>
    rw [List.forall_mem_cons] at hc
    rw [Command.leave_cons, List.foldl_cons, exec_of_open hc.1.1 hc.1.2 hm]
    exact ih ((isOpen_serve m c now).trans hm) hc.2

theorem keyed : Keyed exec (fun _ => True) (fun m => m.isOpen = true)
    (fun m now key => m.live? key now) where
  sound_of_isOpen _ := trivial
  connect _ _ := ⟨rfl, rfl⟩
  ready now hm := by rw [exec_of_open (c := .ready) (by simp) (by simp) hm]
  sound_exec _ _ _ := trivial
  isOpen_exec c now hc hm := isOpen_exec hc hm now
  get {m} now key hm := by
    have h := m.holds_self now
    rw [exec_of_open (c := .get key) (by simp) (by simp) hm, h.live?]
    exact congrArg _ (h.load key).1
  put {m} now key value hm := by
    rw [exec_of_open (c := .put key value) (by simp) (by simp) hm]
    exact ⟨rfl, m.live?_store key value now⟩
  delete {m} now key hm := by
    rw [exec_of_open (c := .delete key) (by simp) (by simp) hm]
    exact ⟨rfl, m.live?_erase key⟩
  batchGet {m} now keys hm := by
    have h := m.holds_self now
    rw [exec_of_open (c := .batchGet keys) (by simp) (by simp) hm]
    simp only [h.live?]
    exact congrArg _ (h.loadAll keys).1
  batchPut {m} now ps hm _ := by
    rw [exec_of_open (c := .batchPut ps) (by simp) (by simp) hm,
      leave_of_open hm now (Command.passes_puts ps), List.foldl_map]
    rfl
  batchDelete {m} now keys hm _ := by
    rw [exec_of_open (c := .batchDelete keys) (by simp) (by simp) hm,
      leave_of_open hm now (Command.passes_deletes keys), List.foldl_map]
    rfl

end Memory

/-! ## The embedded store -/

namespace RawTable

/-- The live value of a key, if it can be read. -/
def live? (t : RawTable) (now : Reading) (key : Bytes) : Option Bytes :=
  match Embedded.read t now key with
  | .ok value => value
  | .error _ => none

variable {t : RawTable} {es : Entries}

namespace Frames

/-- What has a header can be read, whatever the deadline. -/
theorem read_ok (h : t.Frames es) (now : Reading) (key : Bytes) :
    Embedded.read t now key = .ok (t.live? now key) := by
  have ⟨v, hv⟩ : ∃ v, Embedded.read t now key = .ok v := by
    simp only [Embedded.read, h key]
    cases es key with
    | none => exact ⟨none, rfl⟩
    | some e => exact ⟨_, Record.live_encode ..⟩
  simp only [live?, hv]

/-- Whatever a command does, all values have headers afterwards. -/
theorem serve_frames (h : t.Frames es) (c : Command) (now : Reading) :
    ∃ es', RawTable.Frames (Embedded.serve c now t).2 es' := by
  cases c with
  | connect | ready | close | get | batchGet => exact ⟨es, h⟩
  | put key value => exact ⟨_, h.write key value none⟩
  | putWithTtl key value ttl => exact ⟨_, h.write key value (some (now.expiresAt ttl))⟩
  | compareAndSwap key expected new ttl =>
    simp only [Embedded.serve, Embedded.swap, h.read_ok now key]
    split
    · exact ⟨_, h.write key new (ttl.map now.expiresAt)⟩
    · exact ⟨es, h⟩
  | delete key => exact ⟨_, h.erase key⟩
  | batchPut pairs =>
    exact List.foldlRecOn pairs _ (motive := fun t : RawTable => ∃ es, t.Frames es) ⟨es, h⟩
      fun _ ht p _ => ht.imp' _ fun _ ht => ht.write p.1 p.2 none
  | batchDelete keys =>
    exact List.foldlRecOn keys _ (motive := fun t : RawTable => ∃ es, t.Frames es) ⟨es, h⟩
      fun _ ht key _ => ht.imp' _ fun _ ht => ht.erase key

end Frames

theorem live?_write (t : RawTable) (key value : Bytes) (later : Reading) (k : Bytes) :
    live? (Embedded.write t key value none) later k =
      if k = key then some value else t.live? later k := by
  simp only [live?, Embedded.read, Embedded.write, Table.find?_insert]
  by_cases hk : k = key
  · simp only [hk, if_true, Record.live_encode_none]
  · simp only [hk, if_false]

theorem live?_erase (t : RawTable) (key : Bytes) (later : Reading) (k : Bytes) :
    live? (Table.erase t key) later k = if k = key then none else t.live? later k := by
  simp only [live?, Embedded.read, Table.find?_erase]
  by_cases hk : k = key <;> simp only [hk, if_true, if_false]

end RawTable

namespace OnDisk

variable {w : OnDisk} {t : RawTable}

/-- The file of the store is kept with these values, while it is open. -/
def keeping (w : OnDisk) (t : RawTable) : OnDisk :=
  { w with disk := w.disk.keep w.store.path ⟨true, some t⟩ }

theorem keeping_keeping (w : OnDisk) (t t' : RawTable) :
    (w.keeping t).keeping t' = w.keeping t' := by
  simp only [keeping, Disk.keep, Table.insert_insert]

theorem table?_keeping (hw : w.store.isOpen = true) (t : RawTable) :
    Embedded.table? (w.keeping t) = some t := by
  simp [keeping, Embedded.table?, hw, Disk.keep, Table.find?_insert]

/-- All values of the file have headers, and the store has the file open or can open it. -/
def Sound (w : OnDisk) : Prop := ∃ es, w.Has es

theorem has_keeping {es : Entries} (hp : Disk.isWithin w.store.path = true)
    (hw : w.store.isOpen = true) (ht : t.Frames es) : (w.keeping t).Has es := by
  obtain ⟨disk, path, isOpen⟩ := w
  cases hw
  exact .opened ht hp

/-- The store has its file open. -/
structure IsOpen (w : OnDisk) : Prop where
  sound : w.Sound
  isOpen : w.store.isOpen = true

/-- The live value of a key in the file that is open. -/
def live? (w : OnDisk) (now : Reading) (key : Bytes) : Option Bytes :=
  (Embedded.table? w).bind fun t => t.live? now key

theorem live?_keeping (hw : w.store.isOpen = true) (t : RawTable) :
    (w.keeping t).live? = t.live? := by
  funext now key
  rw [live?, table?_keeping hw]
  rfl

theorem IsOpen.table? (h : w.IsOpen) : ∃ t es, Embedded.table? w = some t ∧ t.Frames es :=
  have ⟨es, hes⟩ := h.sound
  have ⟨t, ht, hf⟩ := hes.table?_of_isOpen h.isOpen
  ⟨t, es, ht, hf⟩

end OnDisk

namespace Embedded

variable {w : OnDisk} {t : RawTable}

/-- A command on data is served from the file, and the file kept with what it leaves. -/
theorem exec_of_table {c : Command} (hc : c ≠ .connect) (hc' : c ≠ .close) (now : Reading)
    (ht : table? w = some t) :
    exec c now w = ((serve c now t).1, w.keeping (serve c now t).2) := by
  rw [exec_eq hc hc', ht]
  rfl

theorem isOpen_exec {c : Command} (hc : c ≠ .close) (h : w.IsOpen) (now : Reading) :
    (exec c now w).2.IsOpen := by
  by_cases hn : c = .connect
  · subst hn
    simp only [exec, connect, h.isOpen, if_true]
    exact h
  · obtain ⟨t, es, ht, hf⟩ := h.table?
    obtain ⟨es', hf'⟩ := hf.serve_frames c now
    obtain ⟨_, hes⟩ := h.sound
    rw [exec_of_table hn hc now ht]
    exact ⟨⟨es', OnDisk.has_keeping hes.isWithin h.isOpen hf'⟩, h.isOpen⟩

theorem sound_exec (c : Command) (h : w.Sound) (now : Reading) : (exec c now w).2.Sound := by
  obtain ⟨es, hes⟩ := h
  by_cases hc : c = .connect
  · subst hc
    exact ⟨es, hes.connect.2.1⟩
  by_cases hc' : c = .close
  · subst hc'
    exact ⟨es, hes.close.1⟩
  cases ho : w.store.isOpen with
  | true => exact (isOpen_exec hc' ⟨⟨es, hes⟩, ho⟩ now).sound
  | false =>
    rw [exec_of_closed hc hc' ho]
    exact ⟨es, hes⟩

/-- An open store does the parts of a batch one after the other. Each of them keeps the file anew,
and the last one counts. -/
theorem leave_of_open (hw : w.store.isOpen = true) (now : Reading) {cs : List Command}
    (hc : ∀ c ∈ cs, c.Passes) (t : RawTable) :
    Command.leave exec now cs (w.keeping t) =
      w.keeping (cs.foldl (fun t c => (serve c now t).2) t) := by
  induction cs generalizing t with
  | nil => rfl
  | cons c cs ih =>
    rw [List.forall_mem_cons] at hc
    rw [Command.leave_cons, List.foldl_cons,
      exec_of_table hc.1.1 hc.1.2 now (OnDisk.table?_keeping hw t), OnDisk.keeping_keeping]
    exact ih hc.2 _

theorem leave_of_table (hw : w.store.isOpen = true) (ht : table? w = some t) (now : Reading)
    {cs : List Command} (hc : ∀ c ∈ cs, c.Passes) (hn : cs ≠ []) :
    Command.leave exec now cs w = w.keeping (cs.foldl (fun t c => (serve c now t).2) t) := by
  cases cs with
  | nil => exact absurd rfl hn
  | cons c cs =>
    rw [List.forall_mem_cons] at hc
    rw [Command.leave_cons, List.foldl_cons, exec_of_table hc.1.1 hc.1.2 now ht]
    exact leave_of_open hw now hc.2 _

theorem keyed : Keyed exec OnDisk.Sound OnDisk.IsOpen OnDisk.live? where
  sound_of_isOpen h := h.sound
  connect now h :=
    have ⟨es, hes⟩ := h
    have ⟨hr, hs, ho⟩ := hes.connect
    ⟨hr, ⟨es, hs⟩, ho⟩
  ready now h := by
    obtain ⟨t, es, ht, hf⟩ := h.table?
    rw [exec_of_table (c := .ready) nofun nofun now ht]
    rfl
  sound_exec c now h := sound_exec c h now
  isOpen_exec c now hc h := isOpen_exec hc h now
  get now key h := by
    obtain ⟨t, es, ht, hf⟩ := h.table?
    rw [exec_of_table (c := .get key) nofun nofun now ht, OnDisk.live?, ht]
    exact hf.read_ok now key
  put now key value h := by
    obtain ⟨t, es, ht, hf⟩ := h.table?
    rw [exec_of_table (c := .put key value) nofun nofun now ht, OnDisk.live?_keeping h.isOpen]
    refine ⟨rfl, fun later k => ?_⟩
    rw [OnDisk.live?, ht]
    exact t.live?_write key value later k
  delete now key h := by
    obtain ⟨t, es, ht, hf⟩ := h.table?
    rw [exec_of_table (c := .delete key) nofun nofun now ht, OnDisk.live?_keeping h.isOpen]
    refine ⟨rfl, fun later k => ?_⟩
    rw [OnDisk.live?, ht]
    exact t.live?_erase key later k
  batchGet {w} now keys h := by
    obtain ⟨t, es, ht, hf⟩ := h.table?
    rw [exec_of_table (c := .batchGet keys) nofun nofun now ht]
    have hl : w.live? now = t.live? now := by
      funext key
      rw [OnDisk.live?, ht]
      rfl
    rw [hl]
    show keys.mapM (read t now) = _
    induction keys with
    | nil => rfl
    | cons key keys ih =>
      rw [List.mapM_cons, hf.read_ok, ih]
      rfl
  batchPut now ps h hn := by
    obtain ⟨t, es, ht, hf⟩ := h.table?
    rw [exec_of_table (c := .batchPut ps) nofun nofun now ht,
      leave_of_table h.isOpen ht now (Command.passes_puts ps)
        (by simpa using hn), List.foldl_map]
    rfl
  batchDelete now keys h hn := by
    obtain ⟨t, es, ht, hf⟩ := h.table?
    rw [exec_of_table (c := .batchDelete keys) nofun nofun now ht,
      leave_of_table h.isOpen ht now (Command.passes_deletes keys)
        (by simpa using hn), List.foldl_map]
    rfl

end Embedded

end KvBridge
