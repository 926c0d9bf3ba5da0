import KvBridge.Proofs.Cache.Reference
import KvBridge.Proofs.Connection.Reached

/-!
# Calls for single keys on a store that does values by key

On a link that is intact the client can be set up (`Link.Wakes`), after which each call to a cache
for a single key is one command to the store: reading answers the live value (`settles_get`), and a
run of calls that write leaves what their commands leave one after the other (`play_writes`).
-/

namespace KvBridge

variable {β γ : Type}

/-- Setting the client up, if need be, succeeds at once and leads from one link to another, whose
clock shows the same. -/
structure Link.Wakes (conn : Connection (Clocked β)) (isOpen : β → Prop)
    (l l' : Link (Clocked β)) : Prop where
  settles : ∃ es, Call.Settles (conn.acquire {}) l (.ok ()) l' es
  up : l'.Up isOpen
  now : l'.store.now = l.store.now

/-- A client that is up need not be set up. -/
theorem Link.Wakes.refl {conn : Connection (Clocked β)} {isOpen : β → Prop}
    {l : Link (Clocked β)} (h : l.Up isOpen) : l.Wakes conn isOpen l :=
  ⟨⟨_, Connection.settles_acquire_of_connected h.phase⟩, h, rfl⟩

/-- The link after commands were given to the store. -/
def Link.servedAll (exec : (c : Command) → Reading → β → Except Cause c.Reply × β)
    (cs : List Command) (l : Link (Clocked β)) : Link (Clocked β) :=
  { l with store := { l.store with store := Command.leave exec l.store.now cs l.store.store } }

/-- How a cache without a span of its own answers a read when the clock shows a reading. -/
def Connection.readAt (conn : Connection (Clocked β)) (t : Tick) (now : Reading)
    (l : Link (Clocked β)) (key : Bytes) : Option (Except Failure Bytes × Tick) :=
  (((⟨conn, none⟩ : Cache (Clocked β)).get {} key).run.run none t (l.showing now)).finished

/-- What a read answers. -/
def readAnswer : Option Bytes → Except Failure Bytes
  | some value => .ok value
  | none => .error .keyNotFound

namespace Connection

variable {conn : Connection (Clocked β)} {name : String} {atomicSwap : Bool}
  {exec : (c : Command) → Reading → β → Except Cause c.Reply × β} {sound isOpen : β → Prop}
  {live? : β → Reading → Bytes → Option Bytes} {l l' : Link (Clocked β)}

/-- An intact link has a client that can be set up. -/
theorem wakes_of_intact (k : Keyed exec sound isOpen live?)
    (hd : conn.driver = Clocked.driver name atomicSwap exec)
    (hl : l.Intact sound isOpen) : ∃ l', Link.Wakes conn isOpen l l' := by
  cases hp : l.phase with
  | connected => exact ⟨l, ⟨_, settles_acquire_of_connected hp⟩, ⟨hp, hl.isOpen hp⟩, rfl⟩
  | disconnected =>
    obtain ⟨hr₁, ho₁⟩ := k.connect l.store.now hl.sound
    have hr₂ := k.ready l.store.now ho₁
    have hc : ({} : Context).cancelledAt = none := rfl
    have h := settles_acquire (hd ▸ Clocked.answers_driver name atomicSwap exec) hc hp
      (Prod.ext hr₁ rfl) (Prod.ext hr₂ rfl)
    exact ⟨_, ⟨_, h⟩, ⟨rfl, k.isOpen_exec .ready _ nofun ho₁⟩, rfl⟩

theorem up_servedAll (k : Keyed exec sound isOpen live?) (hl : l.Up isOpen) (cs : List Command)
    (hc : ∀ c ∈ cs, c ≠ .close) : (l.servedAll exec cs).Up isOpen :=
  ⟨hl.phase, List.foldlRecOn cs _ (motive := isOpen) hl.isOpen fun _ hb c hm =>
    k.isOpen_exec c _ (hc c hm) hb⟩

/-- A command sets the client up, if need be, and is given to the store. -/
theorem settles_perform_of_wakes (hd : conn.driver = Clocked.driver name atomicSwap exec)
    (w : Link.Wakes conn isOpen l l') (c : Command) (failed : Cause → Failure) :
    ∃ es, Call.Settles (conn.perform {} c failed) l
      ((exec c l'.store.now l'.store.store).1.mapError failed) (l'.served exec c) es := by
  obtain ⟨es, ha⟩ := w.settles
  exact ⟨_, settles_perform (hd ▸ Clocked.answers_driver name atomicSwap exec) rfl ha c failed⟩

/-- A read answers the live value of the key. -/
theorem settles_get (k : Keyed exec sound isOpen live?)
    (hd : conn.driver = Clocked.driver name atomicSwap exec)
    (w : Link.Wakes conn isOpen l l') (key : Bytes) :
    ∃ es, Call.Settles ((⟨conn, none⟩ : Cache (Clocked β)).get {} key) l
      (readAnswer (live? l'.store.store l'.store.now key)) (l'.served exec (.get key)) es := by
  obtain ⟨es, h⟩ := settles_perform_of_wakes hd w (.get key) (.transportForKey "get" key)
  rw [k.get l'.store.now key w.up.isOpen] at h
  refine ⟨_, .observed _ _ (h.bind_ok (?_ : Call.Settles _ _ _ _ []))⟩
  cases live? l'.store.store l'.store.now key with
  | some value => exact .pure _ _
  | none => exact .throw _ _

theorem readAt_of_wakes (k : Keyed exec sound isOpen live?)
    (hd : conn.driver = Clocked.driver name atomicSwap exec) (w : Link.Wakes conn isOpen l l')
    (t : Tick) (key : Bytes) : conn.readAt t l.store.now l key =
      some (readAnswer (live? l'.store.store l'.store.now key), t) := by
  obtain ⟨es, h⟩ := settles_get k hd w key
  rw [readAt, show l.showing l.store.now = l from rfl, h none t]

/-- A client that is up answers reads at every reading of the clock from what is live then. -/
theorem readAt_of_up (k : Keyed exec sound isOpen live?)
    (hd : conn.driver = Clocked.driver name atomicSwap exec) (hl : l.Up isOpen) (t : Tick)
    (later : Reading) (key : Bytes) :
    conn.readAt t later l key = some (readAnswer (live? l.store.store later key), t) :=
  readAt_of_wakes k hd (.refl (hl.showing later)) t key

/-- A call that writes is done at once, and leaves what its command leaves. -/
def Writes (conn : Connection (Clocked β)) (isOpen : β → Prop)
    (exec : (c : Command) → Reading → β → Except Cause c.Reply × β) (call : CacheCall)
    (c : Command) : Prop :=
  c ≠ .close ∧ ∀ l l', Link.Wakes conn isOpen l l' → ∃ r es,
    Call.Settles ((⟨conn, none⟩ : Cache (Clocked β)).call {} call) l (.ok r) (l'.served exec c) es

theorem writes_set (k : Keyed exec sound isOpen live?)
    (hd : conn.driver = Clocked.driver name atomicSwap exec) (key value : Bytes) :
    Writes conn isOpen exec (.set key value none) (.put key value) := by
  refine ⟨nofun, fun l l' w => ?_⟩
  obtain ⟨es, h⟩ := settles_perform_of_wakes hd w (.put key value) (.transportForKey "set" key)
  rw [(k.put l'.store.now key value w.up.isOpen).1] at h
  exact ⟨(), _, .observed _ _ h⟩

theorem writes_delete (k : Keyed exec sound isOpen live?)
    (hd : conn.driver = Clocked.driver name atomicSwap exec) (key : Bytes) :
    Writes conn isOpen exec (.delete key) (.delete key) := by
  refine ⟨nofun, fun l l' w => ?_⟩
  obtain ⟨es, h⟩ := settles_perform_of_wakes hd w (.delete key) (.transportForKey "delete" key)
  rw [(k.delete l'.store.now key w.up.isOpen).1] at h
  exact ⟨(), _, .observed _ _ h⟩

/-- A run of calls that write: each succeeds, and their commands are given to the store one after
the other. -/
theorem play_writes (k : Keyed exec sound isOpen live?) (w : Link.Wakes conn isOpen l l')
    (t : Tick) {xs : List γ} (hx : xs ≠ []) (call : γ → CacheCall) (command : γ → Command)
    (hw : ∀ x, Writes conn isOpen exec (call x) (command x)) :
    let run := (⟨conn, none⟩ : Cache (Clocked β)).play {} t (xs.map fun x => .call (call x)) l
    (∀ ended ∈ run.1, ∃ r, ended.2 = some (.ok r, t)) ∧
      run.2 = l'.servedAll exec (xs.map command) := by
  induction xs generalizing l l' with
  | nil => exact absurd rfl hx
  | cons x xs ih =>
    obtain ⟨hc, hs⟩ := hw x
    obtain ⟨r, es, h⟩ := hs l l' w
    have hup := up_served k w.up hc
    have hr := h none t
    simp only [List.map_cons, Cache.play, hr, List.forall_mem_cons]
    cases xs with
    | nil => exact ⟨⟨⟨r, rfl⟩, fun _ hm => by cases hm⟩, rfl⟩
    | cons y ys =>
      obtain ⟨h1, h2⟩ := ih (.refl hup) (by simp)
      exact ⟨⟨⟨r, rfl⟩, h1⟩, h2⟩

end Connection

namespace Keyed

variable {exec : (c : Command) → Reading → β → Except Cause c.Reply × β} {sound isOpen : β → Prop}
  {live? : β → Reading → Bytes → Option Bytes} {b : β}

/-- Of the values that are written for a key the last one stays, and never expires. -/
theorem live?_puts (k : Keyed exec sound isOpen live?) (hb : isOpen b) (now : Reading)
    (ps : List (Bytes × Bytes)) (later : Reading) (key : Bytes) :
    live? (Command.leave exec now (ps.map fun p => .put p.1 p.2) b) later key =
      (ps.reverse.lookup key).or (live? b later key) := by
  induction ps generalizing b with
  | nil => rfl
  | cons p ps ih =>
    obtain ⟨k', v⟩ := p
    have ho := k.isOpen_exec (.put k' v) now nofun hb
    have hp := (k.put now k' v hb).2 later key
    rw [List.map_cons, Command.leave_cons, ih ho, hp, List.reverse_cons, List.lookup_append,
      Table.lookup_cons_eq, Option.or_assoc]
    split <;> rfl

/-- A key that is deleted has no value. -/
theorem live?_deletes (k : Keyed exec sound isOpen live?) (hb : isOpen b) (now : Reading)
    (keys : List Bytes) (later : Reading) (key : Bytes) :
    live? (Command.leave exec now (keys.map .delete) b) later key =
      if key ∈ keys then none else live? b later key := by
  induction keys generalizing b with
  | nil => rfl
  | cons k' keys ih =>
    have ho := k.isOpen_exec (.delete k') now nofun hb
    have hp := (k.delete now k' hb).2 later key
    rw [List.map_cons, Command.leave_cons, ih ho, hp]
    by_cases hm : key ∈ keys <;> simp [hm]

end Keyed

end KvBridge
