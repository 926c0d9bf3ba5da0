import KvBridge.Connection
import KvBridge.Proofs.Store.Keyed
import KvBridge.Proofs.Timed.Triple

/-!
# The links that calls lead to

A connection starts with its client down. Calls to it may be cancelled, may have any deadline and
may be left at any time, and the clock may be set between them (`Link.Reached`). If the store can
always be opened, then it is open wherever the connection counts its client as up
(`Link.Reached.intact`): setting up counts as done only after the store was opened, and the
connection counts as down before the store is told to close.
-/

namespace KvBridge

variable {α β : Type}

/-- The link when the clock shows a reading. -/
def Link.showing (now : Reading) (l : Link (Clocked β)) : Link (Clocked β) :=
  { l with store := { l.store with now } }

/-- A link to which calls to a connection lead, whose store was at first a certain one. -/
inductive Link.Reached (conn : Connection (Clocked β)) (first : β) : Link (Clocked β) → Prop
  | fresh (now : Reading) : Reached conn first ⟨.disconnected, now, first⟩
  | clock {l : Link (Clocked β)} (now : Reading) (before : Reached conn first l) :
    Reached conn first (l.showing now)
  | connect {l : Link (Clocked β)} (ctx : Context) (horizon : Option Tick) (t : Tick)
    (before : Reached conn first l) :
    Reached conn first ((conn.connect ctx).run.run horizon t l).state
  | close {l : Link (Clocked β)} (ctx : Context) (horizon : Option Tick) (t : Tick)
    (before : Reached conn first l) :
    Reached conn first ((conn.close ctx).run.run horizon t l).state
  | perform {l : Link (Clocked β)} (ctx : Context) (c : Command) (data : c ≠ .close)
    (failed : Cause → Failure) (horizon : Option Tick) (t : Tick) (before : Reached conn first l) :
    Reached conn first ((conn.perform ctx c failed).run.run horizon t l).state

/-- The store of the link is sound, and open if the client counts as up. -/
structure Link.Intact (sound isOpen : β → Prop) (l : Link (Clocked β)) : Prop where
  sound : sound l.store.store
  isOpen : l.phase = .connected → isOpen l.store.store

/-- The client counts as down, and its store is sound. -/
structure Link.Down (sound : β → Prop) (l : Link (Clocked β)) : Prop where
  phase : l.phase = .disconnected
  sound : sound l.store.store

theorem Link.Down.intact {sound isOpen : β → Prop} {l : Link (Clocked β)} (h : l.Down sound) :
    l.Intact sound isOpen := ⟨h.sound, fun hp => nomatch h.phase.symm.trans hp⟩

/-- The client counts as up, and its store is open. -/
structure Link.Up (isOpen : β → Prop) (l : Link (Clocked β)) : Prop where
  phase : l.phase = .connected
  isOpen : isOpen l.store.store

theorem Link.Up.showing {isOpen : β → Prop} {l : Link (Clocked β)} (h : l.Up isOpen)
    (now : Reading) : (l.showing now).Up isOpen := ⟨h.phase, h.isOpen⟩

/-- The link after a command was given to the store. -/
def Link.served (exec : (c : Command) → Reading → β → Except Cause c.Reply × β) (c : Command)
    (l : Link (Clocked β)) : Link (Clocked β) :=
  { l with store := { l.store with store := (exec c l.store.now l.store.store).2 } }

namespace Connection

open Timed (Triple)

variable {conn : Connection (Clocked β)} {name : String} {atomicSwap : Bool}
  {exec : (c : Command) → Reading → β → Except Cause c.Reply × β} {sound isOpen : β → Prop}
  {live? : β → Reading → Bytes → Option Bytes} {pre inv : Link (Clocked β) → Prop}

theorem up_served (k : Keyed exec sound isOpen live?) {l : Link (Clocked β)} (hl : l.Up isOpen)
    {c : Command} (hc : c ≠ .close) : (l.served exec c).Up isOpen :=
  ⟨hl.phase, k.isOpen_exec c _ hc hl.isOpen⟩

theorem triple_guarded (hd : conn.driver = Clocked.driver name atomicSwap exec) (ctx : Context)
    (c : Command) (failed : Cause → Failure) (post : c.Reply → Link (Clocked β) → Prop)
    (hpre : ∀ l, pre l → inv l) (hinv : ∀ l, pre l → inv (l.served exec c))
    (hpost : ∀ l, pre l → ∀ r, (exec c l.store.now l.store.store).1 = .ok r →
      post r (l.served exec c)) :
    Triple pre (conn.guarded ctx c failed).run inv fun r l =>
      inv l ∧ ∀ a, r = .ok a → post a l := by
  have hinvoke : Triple pre (conn.invoke c) inv fun r l => inv l ∧ ∀ a, r = .ok a → post a l := by
    rw [invoke, hd]
    refine .emit _ (.zoom (fun _ _ => rfl) (fun _ => rfl) (fun _ _ _ => rfl) fun l hl => ?_)
    refine .act ?_ ?_
    · rintro _ rfl
      exact hinv l hl
    · rintro _ rfl
      exact ⟨hinv l hl, hpost l hl⟩
  refine .within ctx hpre (hinvoke.bind fun r => .done _ (fun _ h => h.1) fun l hl a ha => ?_)
  cases r with
  | error cause => cases ha
  | ok b =>
    cases ha
    exact hl.2 _ rfl

/-- A command that keeps a property keeps it within every context. -/
theorem triple_guarded_self (hd : conn.driver = Clocked.driver name atomicSwap exec)
    (ctx : Context) (c : Command) (failed : Cause → Failure)
    (h : ∀ l, inv l → inv (l.served exec c)) :
    Triple inv (conn.guarded ctx c failed).run inv fun _ => inv :=
  (triple_guarded hd ctx c failed (fun _ _ => True) (fun _ h => h) h
    fun _ _ _ _ => trivial).mono (fun _ h => h) (fun _ h => h) fun _ _ h => h.1

/-- The wait for the backend keeps what a probe keeps. -/
theorem triple_awaitReady (hd : conn.driver = Clocked.driver name atomicSwap exec)
    (ctx probe : Context) (left : Nat) (inv : Link (Clocked β) → Prop)
    (h : ∀ l, inv l → inv (l.served exec .ready)) :
    Triple inv (conn.awaitReady ctx probe left).run inv fun _ => inv := by
  induction left with
  | zero => exact .done_self _ inv
  | succ left ih =>
    rw [awaitReady, ExceptT.run_mk]
    refine .bind (triple_guarded_self hd probe .ready _ h) fun r => ?_
    split
    · exact .done_self _ inv
    · exact .done_self _ inv
    refine .bind (.tell _ fun _ h => h) fun _ => ?_
    split
    · exact .done_self _ inv
    refine .bind (.sleep ctx _ inv) fun r => ?_
    split
    · exact .done_self _ inv
    · exact ih

/-- Setting up succeeds only if the store is open. -/
theorem triple_establish (k : Keyed exec sound isOpen live?)
    (hd : conn.driver = Clocked.driver name atomicSwap exec) (ctx : Context) :
    Triple (Link.Down sound) (conn.establish ctx).run (Link.Down sound) fun r l =>
      l.Down sound ∧ ∀ a, r = .ok a → isOpen l.store.store := by
  rw [establish, ExceptT.run_bind]
  refine .bind (triple_guarded hd _ .connect _ (fun _ l => isOpen l.store.store)
    (fun _ h => h) (fun l h => ⟨h.phase, k.sound_exec .connect _ h.sound⟩)
    fun l h _ _ => (k.connect _ h.sound).2) fun r => ?_
  cases r with
  | error f => exact .done _ (fun _ h => h.1) fun l h => ⟨h.1, nofun⟩
  | ok a =>
    have ready := triple_awaitReady hd ctx { ctx with timeout := some conn.requestTimeout }
      conn.readiness.probes (fun l => l.phase = .disconnected ∧ isOpen l.store.store)
      fun l h => ⟨h.1, k.isOpen_exec .ready _ nofun h.2⟩
    refine ready.mono (fun l h => ⟨h.1.phase, h.2 a rfl⟩) ?_ ?_
    · exact fun l h => ⟨h.1, k.sound_of_isOpen h.2⟩
    · exact fun r l h => ⟨⟨h.1, k.sound_of_isOpen h.2⟩, fun _ _ => h.2⟩

/-- A client that is down stays so while it is released. -/
theorem triple_release (k : Keyed exec sound isOpen live?)
    (hd : conn.driver = Clocked.driver name atomicSwap exec) (ctx : Context) :
    Triple (Link.Down sound) (conn.release ctx).run (Link.Down sound) fun _ => Link.Down sound :=
  triple_guarded_self hd _ .close _ fun _ h => ⟨h.phase, k.sound_exec .close _ h.sound⟩

/-- Looking at the phase tells a client that is down. -/
theorem triple_isConnected : Triple (Link.Intact sound isOpen)
    (isConnected : Program (Link (Clocked β)) Bool) (Link.Intact sound isOpen) fun up l =>
      l.Intact sound isOpen ∧ (up = false → l.Down sound) := by
  refine .act (fun _ h => h) fun l h => ⟨h, fun hp => ⟨?_, h.sound⟩⟩
  cases hl : l.phase with
  | disconnected => rfl
  | connected => simp [hl] at hp

theorem triple_connect (k : Keyed exec sound isOpen live?)
    (hd : conn.driver = Clocked.driver name atomicSwap exec) (ctx : Context) :
    Triple (Link.Intact sound isOpen) (conn.connect ctx).run (Link.Intact sound isOpen)
      fun _ => Link.Intact sound isOpen := by
  have down (l : Link (Clocked β)) (h : l.Down sound) : l.Intact sound isOpen := h.intact
  refine .alone (triple_isConnected.bind fun up => ?_)
  cases up with
  | true => exact .done _ (fun _ h => h.1) fun _ h => h.1
  | false =>
    have establish := Triple.within ctx (fun _ h => h) ((triple_establish k hd ctx).mono
      (fun _ h => h) (fun _ h => h) fun _ _ h => h.2)
    refine .bind (establish.mono (fun l h => h.2 rfl) down fun _ _ h => h) fun r => ?_
    cases r with
    | ok a =>
      -- The phase changes only here, and only after the store was opened.
      have enter : Triple (fun l => sound l.store.store ∧ isOpen l.store.store)
          (enter .connected) (Link.Intact sound isOpen) fun _ => Link.Intact sound isOpen :=
        .act (fun _ h => ⟨h.1, fun _ => h.2⟩) fun _ h => ⟨h.1, fun _ => h.2⟩
      refine .mono (enter.bind fun _ => .bind (.tell _ fun _ h => h) fun _ => .done_self _ _)
        (fun _ h => ⟨h.1.sound, h.2 a rfl⟩) (fun _ h => h) fun _ _ h => h
    | error f =>
      refine .bind ((triple_release k hd ctx).mono (fun _ h => h.1) down fun _ => down) fun r => ?_
      cases r with
      | ok a => exact .done_self _ _
      | error f => exact .bind (.tell _ fun _ h => h) fun _ => .done_self _ _

theorem triple_close (k : Keyed exec sound isOpen live?)
    (hd : conn.driver = Clocked.driver name atomicSwap exec) (ctx : Context) :
    Triple (Link.Intact sound isOpen) (conn.close ctx).run (Link.Intact sound isOpen)
      fun _ => Link.Intact sound isOpen := by
  have down (l : Link (Clocked β)) (h : l.Down sound) : l.Intact sound isOpen := h.intact
  refine .alone (triple_isConnected.bind fun up => ?_)
  cases up with
  | false => exact .done _ (fun _ h => h.1) fun _ h => h.1
  | true =>
    have enter : Triple (fun l => l.Intact sound isOpen ∧ (true = false → l.Down sound))
        (enter .disconnected) (Link.Intact sound isOpen) fun _ => Link.Down sound :=
      .act (fun _ h => ⟨h.1.sound, nofun⟩) fun _ h => ⟨rfl, h.1.sound⟩
    exact enter.bind fun _ => .bind (.tell _ down) fun _ =>
      (triple_release k hd ctx).mono (fun _ h => h) down fun _ => down

theorem triple_perform (k : Keyed exec sound isOpen live?)
    (hd : conn.driver = Clocked.driver name atomicSwap exec) (ctx : Context) {c : Command}
    (hc : c ≠ .close) (failed : Cause → Failure) :
    Triple (Link.Intact sound isOpen) (conn.perform ctx c failed).run (Link.Intact sound isOpen)
      fun _ => Link.Intact sound isOpen := by
  have acquire : Triple (Link.Intact sound isOpen) (conn.acquire ctx).run
      (Link.Intact sound isOpen) fun _ => Link.Intact sound isOpen := by
    refine triple_isConnected.bind fun up => ?_
    cases up with
    | true => exact .done _ (fun _ h => h.1) fun _ h => h.1
    | false => exact (triple_connect k hd ctx).mono (fun _ h => h.1) (fun _ h => h) fun _ _ h => h
  rw [perform, ExceptT.run_bind]
  refine acquire.bind fun r => ?_
  cases r with
  | error f => exact .done_self _ _
  | ok a =>
    exact triple_guarded_self hd _ c failed fun l h =>
      ⟨k.sound_exec c _ h.sound, fun hp => k.isOpen_exec c _ hc (h.isOpen hp)⟩

end Connection

/-- Wherever calls lead, the store is open if the client counts as up. -/
theorem Link.Reached.intact {conn : Connection (Clocked β)} {name : String} {atomicSwap : Bool}
    {exec : (c : Command) → Reading → β → Except Cause c.Reply × β} {sound isOpen : β → Prop}
    {live? : β → Reading → Bytes → Option Bytes} (k : Keyed exec sound isOpen live?)
    (hd : conn.driver = Clocked.driver name atomicSwap exec) {first : β} (h₀ : sound first)
    {l : Link (Clocked β)} (h : Link.Reached conn first l) : l.Intact sound isOpen := by
  induction h with
  | fresh now => exact ⟨h₀, nofun⟩
  | clock now _ ih => exact ⟨ih.sound, ih.isOpen⟩
  | connect ctx horizon t _ ih => exact (Connection.triple_connect k hd ctx horizon t _ ih).1
  | close ctx horizon t _ ih => exact (Connection.triple_close k hd ctx horizon t _ ih).1
  | perform ctx c data failed horizon t _ ih =>
    exact (Connection.triple_perform k hd ctx data failed horizon t _ ih).1

end KvBridge
