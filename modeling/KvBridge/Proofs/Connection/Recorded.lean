import KvBridge.Proofs.Cache.Reference
import KvBridge.Proofs.Timed.Follows
import KvBridge.Processor

/-!
# Connections that keep a record of replies

The driver of a recorded connection writes down how each command was answered. Nothing else about
the connection changes, nor about what is done over it: calls to it, to a cache and to a processor
follow those over the connection itself.

* `Driver.recorded`, `Connection.recorded`;
* `Connection.follows_connect`, `Connection.follows_close`, `Connection.follows_acquire`;
* `Cache.follows_call`, `Processor.follows_process`.
-/

namespace KvBridge

variable {σ τ δ α β : Type}

/-- The state of a driver, and which commands were answered and whether they succeeded. -/
structure Recorded (δ : Type) where
  replies : List (Command × Bool)
  store : δ

/-- The driver that writes down how each command was answered. -/
def Driver.recorded (d : Driver δ) : Driver (Recorded δ) where
  name := d.name
  atomicSwap := d.atomicSwap
  call c :=
    ((d.call c).zoom Recorded.store fun store s => { s with store }).bind fun r =>
      .step (fun s => ((), { s with replies := s.replies ++ [(c, r.isOk)] })) fun _ => .done r

/-- The connection with a driver that keeps a record. -/
def Connection.recorded (conn : Connection δ) : Connection (Recorded δ) :=
  ⟨conn.driver.recorded, conn.readiness, conn.requestTimeout⟩

/-- The link without the record. -/
def Link.unrecorded (l : Link (Recorded δ)) : Link δ := ⟨l.phase, l.store.store⟩

/-- The desk without the record. -/
def Desk.unrecorded (d : Desk (Recorded δ)) : Desk δ := ⟨d.resolvers, d.link.unrecorded⟩

/-- The desk with a record in which nothing is written yet. -/
def Desk.recorded (d : Desk δ) : Desk (Recorded δ) := ⟨d.resolvers, d.link.phase, [], d.link.store⟩

open Timed (Follows)

theorem Driver.follows_call (d : Driver δ) (c : Command) :
    Follows Recorded.store id (d.recorded.call c) (d.call c) :=
  (Follows.of_zoom (fun _ _ => rfl) (d.call c)).andAside fun r =>
    .aside (fun _ => rfl) fun _ => .done r

/-! ## Calls -/

namespace Call

variable {view : σ → τ}

/-- A call follows another one: its program does, and tells of the same. -/
abbrev Follows (view : σ → τ) (x : Call σ α) (y : Call τ α) : Prop :=
  Timed.Follows view id (ExceptT.run x) (ExceptT.run y)

theorem Follows.bind {x : Call σ α} {y : Call τ α} {f : α → Call σ β} {f' : α → Call τ β}
    (h : Follows view x y) (hf : ∀ a, Follows view (f a) (f' a)) :
    Follows view (x >>= f) (y >>= f') := by
  refine Timed.Follows.bind (f := ExceptT.bindCont f) h fun r => ?_
  cases r with
  | ok a => exact hf a
  | error e => exact .done _

theorem Follows.observed (component operation : String) {x : Call σ α} {y : Call τ α}
    (h : Follows view x y) :
    Follows view (observed component operation x) (observed component operation y) :=
  Timed.Follows.bind h fun r => .emit _ (.done r)

end Call

/-! ## Connections -/

namespace Connection

variable (conn : Connection δ)

theorem follows_guarded (ctx : Context) (c : Command) (failed : Cause → Failure) :
    Call.Follows Link.unrecorded (conn.recorded.guarded ctx c failed)
      (conn.guarded ctx c failed) := by
  have called := conn.driver.follows_call c
  have invoked : Follows Link.unrecorded id (conn.recorded.invoke c) (conn.invoke c) :=
    .emit (Event.command c) (.zoom (fun _ => rfl) (fun _ => rfl) (fun _ _ => rfl) called)
  exact .within ctx (invoked.bind fun r => .done _)

theorem follows_awaitReady (ctx probe : Context) (left : Nat) :
    Call.Follows Link.unrecorded (conn.recorded.awaitReady ctx probe left)
      (conn.awaitReady ctx probe left) := by
  induction left with
  | zero => exact .done _
  | succ left ih =>
    rw [awaitReady, awaitReady]
    refine Timed.Follows.bind (conn.follows_guarded probe .ready _) fun r => ?_
    split
    · exact .done _
    · exact .done _
    refine Timed.Follows.bind (.emit _ (.done _)) fun _ => ?_
    split
    · exact .done _
    refine Timed.Follows.bind (.within _ (.wait _ (.done _))) fun r => ?_
    split
    · exact .done _
    · exact ih

theorem follows_establish (ctx : Context) :
    Call.Follows Link.unrecorded (conn.recorded.establish ctx) (conn.establish ctx) :=
  .bind (conn.follows_guarded _ .connect _) fun _ => conn.follows_awaitReady ctx _ _

theorem follows_request (ctx : Context) (c : Command) (failed : Cause → Failure) :
    Call.Follows Link.unrecorded (conn.recorded.request ctx c failed) (conn.request ctx c failed) :=
  conn.follows_guarded (ctx.orTimeout conn.requestTimeout) c failed

theorem follows_isConnected :
    Follows Link.unrecorded id (isConnected : Program (Link (Recorded δ)) Bool) isConnected :=
  .act fun _ => rfl

theorem follows_connect (ctx : Context) :
    Call.Follows Link.unrecorded (conn.recorded.connect ctx) (conn.connect ctx) := by
  refine .alone (.bind follows_isConnected fun up => ?_)
  split
  · exact .done _
  refine Timed.Follows.bind (.within ctx (conn.follows_establish ctx)) fun r => ?_
  split
  · exact .bind (.act fun _ => rfl) fun _ => .emit _ (.done _)
  · refine Timed.Follows.bind (conn.follows_request ctx .close _) fun r => ?_
    split
    · exact .done _
    · exact .emit _ (.done _)

theorem follows_close (ctx : Context) :
    Call.Follows Link.unrecorded (conn.recorded.close ctx) (conn.close ctx) := by
  refine .alone (.bind follows_isConnected fun up => ?_)
  split
  · exact .done _
  · exact .bind (.act fun _ => rfl) fun _ => .emit _ (conn.follows_request ctx .close _)

theorem follows_acquire (ctx : Context) :
    Call.Follows Link.unrecorded (conn.recorded.acquire ctx) (conn.acquire ctx) := by
  refine Timed.Follows.bind follows_isConnected fun up => ?_
  split
  · exact .done _
  · exact conn.follows_connect ctx

theorem follows_perform (ctx : Context) (c : Command) (failed : Cause → Failure) :
    Call.Follows Link.unrecorded (conn.recorded.perform ctx c failed) (conn.perform ctx c failed) :=
  .bind (conn.follows_acquire ctx) fun _ => conn.follows_request ctx c failed

end Connection

/-! ## Caches -/

/-- The cache over the recorded connection. -/
def Cache.recorded (cache : Cache δ) : Cache (Recorded δ) := ⟨cache.conn.recorded, cache.defaultTtl⟩

namespace Cache

variable (cache : Cache δ) (ctx : Context)

theorem follows_store (key value : Bytes) (ttl : Option Duration) :
    Call.Follows Link.unrecorded (cache.recorded.store ctx key value ttl)
      (cache.store ctx key value ttl) := by
  cases ttl with
  | none => exact cache.conn.follows_perform ctx _ _
  | some ttl => exact cache.conn.follows_perform ctx _ _

theorem follows_add (key value : Bytes) (ttl : Option Duration) :
    Call.Follows Link.unrecorded (cache.recorded.add ctx key value ttl)
      (cache.add ctx key value ttl) := by
  refine .observed _ _ ?_
  show Call.Follows Link.unrecorded (if cache.atomicAdd then _ else _) _
  split
  · refine .bind (cache.conn.follows_perform ctx _ _) fun outcome => ?_
    cases outcome.swapped with
    | true => exact .done _
    | false => exact .done _
  · refine .bind (cache.conn.follows_perform ctx _ _) fun found => ?_
    cases found with
    | none => exact cache.follows_store ctx key value _
    | some old => exact .done _

/-- A call to the cache over the recorded connection follows one to the cache. -/
theorem follows_call (c : CacheCall) :
    Call.Follows Link.unrecorded (cache.recorded.call ctx c) (cache.call ctx c) := by
  cases c with
  | get key =>
    refine .observed _ _ (.bind (cache.conn.follows_perform ctx _ _) fun found => ?_)
    cases found with
    | none => exact .done _
    | some value => exact .done _
  | set key value ttl => exact .observed _ _ (cache.follows_store ctx key value _)
  | add key value ttl => exact cache.follows_add ctx key value ttl
  | delete key => exact .observed _ _ (cache.conn.follows_perform ctx _ _)
  | connect => exact cache.conn.follows_connect ctx
  | close => exact cache.conn.follows_close ctx

end Cache

/-! ## Batches -/

/-- The processor over the recorded connection. -/
def Processor.recorded (p : Processor δ) : Processor (Recorded δ) := ⟨p.conn.recorded, p.operation⟩

namespace Processor

theorem follows_onLink {x : Call (Link (Recorded δ)) α} {y : Call (Link δ) α}
    (h : Call.Follows Link.unrecorded x y) :
    Call.Follows Desk.unrecorded (onLink x) (onLink y) :=
  Timed.Follows.zoom (fun _ => rfl) (fun _ => rfl) (fun _ _ => rfl) h

theorem follows_resolveKeys (batch : List Message) :
    Call.Follows Desk.unrecorded (resolveKeys batch : Call (Desk (Recorded δ)) _)
      (resolveKeys batch) := .act fun _ => rfl

theorem follows_resolveContents (batch : List Message) :
    Call.Follows Desk.unrecorded (resolveContents batch : Call (Desk (Recorded δ)) _)
      (resolveContents batch) := by
  refine .act fun d => ?_
  obtain ⟨⟨key, content⟩, link⟩ := d
  cases content with
  | none => rfl
  | some resolver => rfl

variable (p : Processor δ)

/-- A processor over the recorded connection follows the processor. -/
theorem follows_process (ctx : Context) (batch : List Message) :
    Call.Follows Desk.unrecorded (p.recorded.process ctx batch) (p.process ctx batch) := by
  obtain ⟨conn, operation⟩ := p
  have perform (c : Command) (failed : Cause → Failure) :=
    follows_onLink (conn.follows_perform ctx c failed)
  unfold process
  split
  · exact .done _
  refine .observed _ _ (.bind (follows_resolveKeys batch) fun keys => ?_)
  cases operation with
  | get =>
    refine .bind (perform _ _) fun values => ?_
    split
    · exact .done _
    · exact .done _
  | delete => exact .bind (perform (.batchDelete keys) _) fun _ => .done _
  | put =>
    refine .bind (follows_resolveContents batch) fun values => ?_
    exact .bind (perform (.batchPut (keys.zip values)) _) fun _ => .done _

end Processor

end KvBridge
