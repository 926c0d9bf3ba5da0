import KvBridge.Proofs.Connection.Conduct
import KvBridge.Proofs.Connection.Recorded

/-!
# A call over a connection guards the store

Within a call the connection counts as up exactly if it did so when the call was made, or if
according to the record the driver has connected since and then was ready (`Link.Standing`). No
command for data is given while it counts as down. Both hold wherever the call can be cut short, by
a cancellation or a deadline.

* `Connection.guards_connect`, `Connection.guards_close`, `Connection.guards_perform`: calls to the
  connection itself;
* `Call.Modular`: properties that pass from a connection to the caches and the processors over it;
* `Cache.guards_call`, `Processor.guards_process`.
-/

namespace KvBridge

variable {σ δ α β : Type}

open Timed (Ensures)

/-! ## The record of a call -/

/-- According to the record the driver connected, and later it was ready. -/
def SetUp (replies : List (Command × Bool)) : Prop :=
  [(.connect, true), (.ready, true)].Sublist replies

instance (replies : List (Command × Bool)) : Decidable (SetUp replies) :=
  inferInstanceAs (Decidable ([_, _].Sublist replies))

namespace SetUp

variable {replies : List (Command × Bool)}

theorem append (h : SetUp replies) (more : List (Command × Bool)) : SetUp (replies ++ more) :=
  h.trans (List.sublist_append_left replies more)

/-- A driver that has connected becomes ready. -/
theorem of_ready (h : (.connect, true) ∈ replies) : SetUp (replies ++ [(.ready, true)]) :=
  (List.singleton_sublist.2 h).append (List.Sublist.refl _)

theorem ready_mem (h : SetUp replies) : (.ready, true) ∈ replies :=
  h.subset (List.mem_cons_of_mem _ List.mem_cons_self)

end SetUp

namespace Link

variable {found : Phase} {l l' : Link (Recorded δ)}

/-- The phase and the record are the same. -/
structure Alike (l l' : Link (Recorded δ)) : Prop where
  phase : l'.phase = l.phase
  replies : l'.store.replies = l.store.replies

/-- The phase is the same, and one reply has come. -/
structure Hears (c : Command) (ok : Bool) (l l' : Link (Recorded δ)) : Prop where
  phase : l'.phase = l.phase
  replies : l'.store.replies = l.store.replies ++ [(c, ok)]

/-- The connection counts as down, and no probe has succeeded. -/
structure Unready (l : Link (Recorded δ)) : Prop where
  phase : l.phase = .disconnected
  unready : (.ready, true) ∉ l.store.replies

/-- The driver has connected, and is not known to be ready. -/
structure Probing (l : Link (Recorded δ)) : Prop extends Unready l where
  connected : (.connect, true) ∈ l.store.replies

/-- Within a call that found a phase, the connection counts as up exactly if it did so before or
the call has set the client up. -/
structure Standing (found : Phase) (l : Link (Recorded δ)) : Prop where
  up : l.phase = .connected → found = .connected ∨ SetUp l.store.replies
  down : l.phase = .disconnected → found = .disconnected ∧ (.ready, true) ∉ l.store.replies

theorem Alike.unready (h : l.Alike l') (hl : l.Unready) : l'.Unready where
  phase := h.phase.trans hl.phase
  unready := h.replies ▸ hl.unready

theorem Alike.probing (h : l.Alike l') (hl : l.Probing) : l'.Probing where
  toUnready := h.unready hl.toUnready
  connected := h.replies ▸ hl.connected

theorem Hears.unready {c : Command} {ok : Bool} (h : l.Hears c ok l') (hl : l.Unready)
    (hc : (c, ok) ≠ (.ready, true)) : l'.Unready where
  phase := h.phase.trans hl.phase
  unready := by
    rw [h.replies, List.mem_append, List.mem_singleton]
    exact fun hm => hm.elim hl.unready fun he => hc he.symm

theorem Hears.probing (h : l.Hears .connect true l') (hl : l.Unready) : l'.Probing where
  toUnready := h.unready hl nofun
  connected := by
    rw [h.replies]
    exact List.mem_append_right _ List.mem_cons_self

theorem Unready.standing (h : l.Unready) : l.Standing .disconnected where
  up hl := nomatch h.phase.symm.trans hl
  down _ := ⟨rfl, h.unready⟩

theorem Standing.iff (h : l.Standing found) :
    l.phase = .connected ↔ found = .connected ∨ SetUp l.store.replies := by
  refine ⟨h.up, fun hs => ?_⟩
  cases hp : l.phase with
  | connected => rfl
  | disconnected =>
    obtain ⟨hf, hn⟩ := h.down hp
    rcases hs with hc | hs
    · exact nomatch hf.symm.trans hc
    · exact absurd hs.ready_mem hn

theorem Standing.alike (h : l.Standing found) (ha : l.Alike l') : l'.Standing found where
  up hl := ha.replies ▸ h.up (ha.phase.symm.trans hl)
  down hl := ha.replies ▸ h.down (ha.phase.symm.trans hl)

/-- What a command came to within a context: it was cut short, or has been answered. -/
inductive Replied (c : Command) (l l' : Link (Recorded δ)) : Except Failure α → Prop
  | cut (f : Failure) (h : l.Alike l') : Replied c l l' (.error f)
  | failed (f : Failure) (h : l.Hears c false l') : Replied c l l' (.error f)
  | done (a : α) (h : l.Hears c true l') : Replied c l l' (.ok a)

namespace Replied

variable {c : Command} {r : Except Failure α}

theorem unready (h : Replied c l l' r) (hl : l.Unready) (hc : c ≠ .ready) : l'.Unready := by
  have hn (ok : Bool) : (c, ok) ≠ (.ready, true) := fun he => hc (congrArg Prod.fst he)
  cases h with
  | cut _ h => exact h.unready hl
  | failed _ h => exact h.unready hl (hn false)
  | done _ h => exact h.unready hl (hn true)

/-- A probe that fails. -/
theorem probing {f : Failure} (h : Replied .ready l l' (.error f : Except Failure α))
    (hl : l.Probing) : l'.Probing := by
  cases h with
  | cut _ h => exact h.probing hl
  | failed _ h =>
    have connected := List.mem_append_left [(.ready, false)] hl.connected
    exact ⟨h.unready hl.toUnready nofun, h.replies ▸ connected⟩

/-- Nothing matters that a command comes to while the connection counts as up. -/
theorem standing (h : Replied c l l' r) (hs : l.Standing found) (hl : l.phase = .connected) :
    l'.Standing found := by
  have heard {ok : Bool} (hh : l.Hears c ok l') : l'.Standing found :=
    ⟨fun _ => (hs.up hl).imp_right fun hu => hh.replies ▸ hu.append _,
      fun hd => nomatch (hh.phase.trans hl).symm.trans hd⟩
  cases h with
  | cut _ h => exact hs.alike h
  | failed _ h => exact heard h
  | done _ h => exact heard h

end Replied

end Link

/-! ## One call -/

/-- What concerns the client may be told at any time, all else where it is allowed. Of the moments
only those count at which a call waits. -/
def guarding (allowed : σ → Prop) : Terms σ := ⟨False, fun c s => c.isLifecycle = true ∨ allowed s⟩

namespace Connection

variable {conn : Connection δ} {allowed : Link (Recorded δ) → Prop} {found : Phase}
  {cs : List Command} {l : Link (Recorded δ)}

/-- One command within a context. -/
theorem guards_guarded (hq : conn.driver.Silent) (ctx : Context) (c : Command)
    (failed : Cause → Failure) (ht : c.isLifecycle = true ∨ allowed l) :
    Ensures (guarding allowed) (conn.recorded.guarded ctx c failed).run (fun _ => l.Alike)
      (fun r _ l' => l.Replied c l' r) cs l := by
  -- While the driver is at work nothing is written down; then the reply is.
  have called (s : Recorded δ) : Ensures (guarding fun s => allowed { l with store := s })
      ((conn.driver.call c).zoom Recorded.store fun store s => { s with store })
      (fun _ s' => s'.replies = s.replies) (fun _ _ s' => s'.replies = s.replies) (cs ++ [c]) s :=
    .zoom (fun _ _ => rfl) (fun _ => rfl) (fun _ _ _ => rfl)
      ((hq c).ensures (fun _ => rfl) (fun _ _ => rfl) _)
  have recorded : Ensures (guarding allowed)
      ((conn.recorded.driver.call c).zoom Link.store fun store l => { l with store })
      (fun _ => l.Alike) (fun r _ => l.Hears c r.isOk) (cs ++ [c]) l := by
    refine .zoom (fun _ _ => rfl) (fun _ => rfl) (fun _ _ _ => rfl) (.bind ?_)
    refine (called l.store).mono (fun _ s h => ⟨rfl, h⟩) fun r _ s h => ?_
    exact ⟨False.elim, False.elim, rfl, congrArg (· ++ [(c, r.isOk)]) h⟩
  refine ensures_guarded failed ⟨False.elim, .cut _ ⟨rfl, rfl⟩⟩ False.elim ht recorded ?_ ?_
  · exact fun _ l' h => ⟨h, fun why => .cut _ h⟩
  · rintro r _ l' h
    refine ⟨False.elim, ?_⟩
    cases r with
    | ok a => exact .done a h
    | error e => exact .failed _ h

/-- How an attempt to set the client up went, by its answer. -/
def Attempted (r : Except Failure Unit) (l : Link (Recorded δ)) : Prop :=
  match r with
  | .ok () => SetUp l.store.replies
  | .error _ => l.Unready

/-- The first probe that succeeds sets the client up. -/
theorem guards_awaitReady (hq : conn.driver.Silent) (ctx probe : Context) (left : Nat)
    (h : l.Probing) : Ensures (guarding allowed) (conn.recorded.awaitReady ctx probe left).run
      (fun _ => Link.Probing) (fun r _ => Attempted r) cs l := by
  induction left generalizing cs l with
  | zero => exact ⟨False.elim, h.toUnready⟩
  | succ left ih =>
    rw [awaitReady, ExceptT.run_mk]
    have probed : Ensures (guarding allowed)
        (conn.recorded.guarded probe .ready (.transport "ready" none)).run _ _ cs l :=
      guards_guarded hq probe .ready _ (.inl rfl)
    refine .bind (probed.mono (fun _ l' ha => ha.probing h) fun r cs l' hr => ?_)
    split
    · cases hr with
      | done a hh =>
        have up : SetUp l'.store.replies := hh.replies ▸ .of_ready h.connected
        exact ⟨False.elim, up⟩
    · exact ⟨False.elim, (hr.probing h).toUnready⟩
    have hp := hr.probing h
    refine .notice _ _ False.elim ?_
    split
    · exact ⟨False.elim, hp.toUnready⟩
    refine .bind ((Ensures.sleep ctx _ hp).mono (fun _ _ h => h) fun r cs l' hp => ?_)
    split
    · exact ⟨False.elim, hp.toUnready⟩
    · exact ih hp

theorem guards_establish (hq : conn.driver.Silent) (ctx : Context) (h : l.Unready) :
    Ensures (guarding allowed) (conn.recorded.establish ctx).run (fun _ => Link.Unready)
      (fun r _ => Attempted r) cs l := by
  have connected : Ensures (guarding allowed) (conn.recorded.guarded
      { ctx with timeout := some conn.requestTimeout } .connect
      (.connection conn.driver.name 1)).run _ _ cs l := guards_guarded hq _ .connect _ (.inl rfl)
  rw [establish, ExceptT.run_bind]
  refine .bind (connected.mono (fun _ l' ha => ha.unready h) fun r cs l' hr => ?_)
  cases r with
  | error f => exact ⟨False.elim, hr.unready h (by decide)⟩
  | ok a =>
    cases hr with
    | done _ hh =>
      exact (guards_awaitReady hq ctx _ _ (hh.probing h)).mono (fun _ _ hp => hp.toUnready)
        fun _ _ _ ha => ha

/-- A call to connect succeeds exactly if the connection counts as up then. -/
theorem guards_connect (hq : conn.driver.Silent) (ctx : Context) (h : l.Standing found) :
    Ensures (guarding allowed) (conn.recorded.connect ctx).run (fun _ => Link.Standing found)
      (fun r _ l' => l'.Standing found ∧ (r = .ok () ↔ l'.phase = .connected)) cs l := by
  obtain ⟨phase, store⟩ := l
  refine .alone False.elim (.bind ⟨False.elim, False.elim, ?_⟩)
  cases phase with
  | connected => exact ⟨False.elim, h, iff_of_true rfl rfl⟩
  | disconnected =>
    obtain ⟨rfl, hn⟩ := h.down rfl
    have unready : Link.Unready (⟨.disconnected, store⟩ : Link (Recorded δ)) := ⟨rfl, hn⟩
    have set : Ensures (guarding allowed) (ctx.within (conn.recorded.establish ctx).run)
        (fun _ => Link.Unready) (fun r _ => Attempted r) cs ⟨.disconnected, store⟩ :=
      .within ⟨False.elim, unready⟩ (guards_establish hq ctx unready)
        (fun _ _ h => ⟨h, fun _ => h⟩) fun _ _ _ h => ⟨False.elim, h⟩
    refine .bind (set.mono (fun _ _ h => h.standing) fun r cs l' hr => ?_)
    cases r with
    | ok a =>
      have up : Link.Standing .disconnected (⟨.connected, l'.store⟩ : Link (Recorded δ)) :=
        ⟨fun _ => .inr hr, nofun⟩
      refine ⟨False.elim, .notice _ _ False.elim ?_⟩
      exact ⟨False.elim, up, iff_of_true rfl rfl⟩
    | error f =>
      have released : Ensures (guarding allowed) (conn.recorded.release ctx).run _ _ cs l' :=
        guards_guarded hq (ctx.orTimeout conn.requestTimeout) .close _ (.inl rfl)
      refine .bind (released.mono (fun _ _ ha => (ha.unready hr).standing) fun r' cs l'' hr' => ?_)
      have down := hr'.unready hr nofun
      have answer : Link.Standing .disconnected l'' ∧
          ((.error f : Except Failure Unit) = .ok () ↔ l''.phase = .connected) :=
        ⟨down.standing, iff_of_false nofun fun hp => nomatch down.phase.symm.trans hp⟩
      cases r' with
      | ok a => exact ⟨False.elim, answer⟩
      | error f' => exact .notice _ _ False.elim ⟨False.elim, answer⟩

/-- A call to close leaves the connection down. -/
theorem guards_close (hq : conn.driver.Silent) (ctx : Context)
    (hn : (.ready, true) ∉ l.store.replies) :
    Ensures (guarding allowed) (conn.recorded.close ctx).run
      (fun _ l' => (.ready, true) ∉ l'.store.replies) (fun _ _ => Link.Unready) cs l := by
  obtain ⟨phase, store⟩ := l
  refine .alone False.elim (.bind ⟨False.elim, False.elim, ?_⟩)
  have unready : Link.Unready (⟨.disconnected, store⟩ : Link (Recorded δ)) := ⟨rfl, hn⟩
  cases phase with
  | disconnected => exact ⟨False.elim, unready⟩
  | connected =>
    have released : Ensures (guarding allowed) (conn.recorded.release ctx).run _ _ cs
        ⟨.disconnected, store⟩ :=
      guards_guarded hq (ctx.orTimeout conn.requestTimeout) .close _ (.inl rfl)
    refine ⟨False.elim, .notice _ _ False.elim ?_⟩
    exact released.mono (fun _ _ ha => (ha.unready unready).unready) fun _ _ _ hr =>
      hr.unready unready nofun

theorem guards_acquire (hq : conn.driver.Silent) (ctx : Context) (h : l.Standing found) :
    Ensures (guarding allowed) (conn.recorded.acquire ctx).run (fun _ => Link.Standing found)
      (fun r _ l' => l'.Standing found ∧ (r = .ok () ↔ l'.phase = .connected)) cs l := by
  have connect : Ensures (guarding allowed) _ _ _ cs l := guards_connect hq ctx h
  obtain ⟨phase, store⟩ := l
  refine .bind ⟨False.elim, False.elim, ?_⟩
  cases phase with
  | connected => exact ⟨False.elim, h, iff_of_true rfl rfl⟩
  | disconnected => exact connect

/-- A command is given only once the client is up. -/
theorem guards_perform (hq : conn.driver.Silent) (ctx : Context) (c : Command)
    (failed : Cause → Failure) (h : l.Standing found) :
    Ensures (guarding fun l => l.phase = .connected) (conn.recorded.perform ctx c failed).run
      (fun _ => Link.Standing found) (fun _ _ => Link.Standing found) cs l := by
  rw [perform, ExceptT.run_bind]
  refine .bind ((guards_acquire hq ctx h).mono (fun _ _ h => h) fun r cs l' ⟨hs, hr⟩ => ?_)
  cases r with
  | error f => exact ⟨False.elim, hs⟩
  | ok a =>
    have hl := hr.1 rfl
    have asked : Ensures (guarding fun l => l.phase = .connected)
        (conn.recorded.request ctx c failed).run _ _ cs l' :=
      guards_guarded hq (ctx.orTimeout conn.requestTimeout) c failed (.inr hl)
    exact asked.mono (fun _ _ ha => hs.alike ha) fun _ _ _ hr => hr.standing hs hl

end Connection

/-! ## Caches and batches -/

/-- A property of calls that the ways to put them together keep. -/
structure Call.Modular (P : (α : Type) → Call σ α → Prop) : Prop where
  done : ∀ {α : Type} (r : Except Failure α), P α (ExceptT.mk (.done r))
  bind : ∀ {α β : Type} {x : Call σ α} {f : α → Call σ β}, P α x → (∀ a, P β (f a)) → P β (x >>= f)
  observed : ∀ {α : Type} (component operation : String) {x : Call σ α}, P α x →
    P α (observed component operation x)

namespace Call.Modular

/-- Caches have the property if what they ask of their connection has it. -/
theorem cache {P : (α : Type) → Call (Link δ) α → Prop} (h : Modular P) (cache : Cache δ)
    (ctx : Context) {c : CacheCall}
    (perform : ∀ c failed, P _ (cache.conn.perform ctx c failed))
    (connect : P _ (cache.conn.connect ctx)) (close : c = .close → P _ (cache.conn.close ctx)) :
    P _ (cache.call ctx c) := by
  have store (key value : Bytes) (ttl : Option Duration) : P _ (cache.store ctx key value ttl) := by
    cases ttl with
    | none => exact perform (.put key value) _
    | some ttl => exact perform (.putWithTtl key value ttl) _
  cases c with
  | get key =>
    refine h.observed _ _ (h.bind (perform _ _) fun found => ?_)
    cases found with
    | none => exact h.done _
    | some value => exact h.done _
  | set key value ttl => exact h.observed _ _ (store key value _)
  | add key value ttl =>
    refine h.observed _ _ ?_
    split
    · refine h.bind (perform _ _) fun outcome => ?_
      cases outcome.swapped with
      | true => exact h.done _
      | false => exact h.done _
    · refine h.bind (perform _ _) fun found => ?_
      cases found with
      | none => exact store key value _
      | some old => exact h.done _
  | delete key => exact h.observed _ _ (perform (.delete key) _)
  | connect => exact connect
  | close => exact close rfl

/-- Processors have the property if what they ask of their connection and their resolvers has
it. -/
theorem processor {P : (α : Type) → Call (Desk δ) α → Prop} (h : Modular P) (p : Processor δ)
    (ctx : Context) (batch : List Message)
    (perform : ∀ c failed, P _ (Processor.onLink (p.conn.perform ctx c failed)))
    (keys : P _ (Processor.resolveKeys batch)) (contents : P _ (Processor.resolveContents batch)) :
    P _ (p.process ctx batch) := by
  unfold Processor.process
  split
  · exact h.done _
  refine h.observed _ _ (h.bind keys fun keys => ?_)
  split
  · refine h.bind (perform _ _) fun values => ?_
    split
    · exact h.done _
    · exact h.done _
  · exact h.bind (perform (.batchDelete keys) _) fun _ => h.done _
  · exact h.bind contents fun values =>
      h.bind (perform (.batchPut (keys.zip values)) _) fun _ => h.done _

end Call.Modular

/-- The call keeps what holds when it starts, and keeps to its terms. -/
def Call.Steady (w : Terms σ) (inv : σ → Prop) (x : Call σ α) : Prop :=
  ∀ cs s, inv s → Ensures w (ExceptT.run x) (fun _ => inv) (fun _ _ => inv) cs s

theorem Call.modular_steady (w : Terms σ) (inv : σ → Prop) :
    Modular fun _ x => Steady w inv x where
  done r _ _ h := ⟨fun _ => h, h⟩
  bind hx hf cs s h := by
    rw [ExceptT.run_bind]
    refine .bind ((hx cs s h).mono (fun _ _ h => h) fun r cs s h => ?_)
    cases r with
    | ok a => exact hf a cs s h
    | error e => exact ⟨fun _ => h, h⟩
  observed _ _ _ hx cs s h :=
    .bind ((hx cs s h).mono (fun _ _ h => h) fun r cs s h =>
      ⟨fun _ => h, nofun, fun _ => h, h⟩)

theorem Call.Steady.act {w : Terms σ} {inv : σ → Prop} {f : σ → Except Failure α × σ}
    (hf : ∀ s, inv s → inv (f s).2) : Steady w inv (Timed.act f) :=
  fun _ s h => ⟨fun _ => h, fun _ => hf s h, hf s h⟩

/-- A call over a connection that guards it: the connection always counts as what its record speaks
for, and only a client that is up is given commands for data. -/
abbrev Guards (found : Phase) (x : Call (Link (Recorded δ)) α) : Prop :=
  x.Steady (guarding fun l => l.phase = .connected) (Link.Standing found)

/-- The same for a call at a desk. -/
abbrev GuardsDesk (found : Phase) (x : Call (Desk (Recorded δ)) α) : Prop :=
  x.Steady (guarding fun d => d.link.phase = .connected) fun d => d.link.Standing found

section Services

variable {found : Phase}

/-- A call at a desk keeps to what it keeps to over the connection. -/
theorem Processor.guards_onLink {x : Call (Link δ) α} {inv : List Command → Link δ → Prop}
    {post : Except Failure α → List Command → Link δ → Prop} {cs : List Command} {d : Desk δ}
    (hx : Ensures (guarding fun l => l.phase = .connected) x.run inv post cs d.link) :
    Ensures (guarding fun d => d.link.phase = .connected) (onLink x).run
      (fun cs d => inv cs d.link) (fun r cs d => post r cs d.link) cs d :=
  .zoom (fun _ _ => rfl) (fun _ => rfl) (fun _ _ _ => rfl) hx

theorem Guards.onLink {x : Call (Link (Recorded δ)) α} (hx : Guards found x) :
    GuardsDesk found (Processor.onLink x) := fun cs d h => Processor.guards_onLink (hx cs d.link h)

namespace Connection

variable {conn : Connection δ}

theorem guards_of_perform (hq : conn.driver.Silent) (ctx : Context) (c : Command)
    (failed : Cause → Failure) : Guards found (conn.recorded.perform ctx c failed) :=
  fun _ _ h => guards_perform hq ctx c failed h

theorem guards_of_connect (hq : conn.driver.Silent) (ctx : Context) :
    Guards found (conn.recorded.connect ctx) :=
  fun _ _ h => (guards_connect hq ctx h).mono (fun _ _ h => h) fun _ _ _ h => h.1

theorem guards_of_acquire (hq : conn.driver.Silent) (ctx : Context) :
    Guards found (conn.recorded.acquire ctx) :=
  fun _ _ h => (guards_acquire hq ctx h).mono (fun _ _ h => h) fun _ _ _ h => h.1

end Connection

/-- Every call to a cache but one to close it. -/
theorem Cache.guards_call (cache : Cache δ) (hq : cache.conn.driver.Silent) (ctx : Context)
    {c : CacheCall} (hc : c ≠ .close) : Guards found (cache.recorded.call ctx c) :=
  (Call.modular_steady _ _).cache cache.recorded ctx (cache.conn.guards_of_perform hq ctx)
    (cache.conn.guards_of_connect hq ctx) fun h => absurd h hc

theorem Processor.guards_process (p : Processor δ) (hq : p.conn.driver.Silent) (ctx : Context)
    (batch : List Message) : GuardsDesk found (p.recorded.process ctx batch) := by
  have contents : GuardsDesk found (resolveContents batch : Call (Desk (Recorded δ)) _) := by
    refine .act fun d h => ?_
    obtain ⟨⟨key, content⟩, link⟩ := d
    cases content with
    | none => exact h
    | some resolver => exact h
  exact (Call.modular_steady _ _).processor p.recorded ctx batch
    (fun c failed => (p.conn.guards_of_perform hq ctx c failed).onLink) (.act fun _ h => h) contents

end Services

end KvBridge
