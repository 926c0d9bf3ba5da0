import KvBridge.Proofs.Cancellation
import KvBridge.Proofs.Connection.Guarding
import KvBridge.Proofs.Connection.Prompt
import KvBridge.Proofs.Connection.Release
import KvBridge.Proofs.Stream.Exchange

/-!
# A shared connection knows whether its client is up

A connection may be shared: it is connected, closed and asked for its driver, and caches and
processors work over it. Of a run of such calls (`Connection.turns`), each within a context of its
own and whatever the driver does, `Connection.tracked_turns` says that the connection counts as up
after a call exactly if in some call so far the driver connected and then was ready, and nobody has
closed since. It says of each call besides what it keeps to (`SharedTurn.Guarded`):

* a call to close leaves the connection down, and so does one to connect that fails
  (`Connection.connect_of_error`);
* a call to connect does nothing while the connection counts as up
  (`Connection.settles_serve_connect`);
* a command for data reaches the driver only then (`SharedTurn.data`);
* a call fails as the client that it needs fails to be set up (`Connection.failsBy_serve`).
-/

namespace KvBridge

variable {σ δ α β : Type}

open Timed (Ensures)

/-! ## Calls -/

/-- A call over a shared connection: to the connection itself, to a cache or to a processor. -/
inductive SharedCall
  | connect
  | close
  | acquire
  /-- Asks for the driver of a client that is up. -/
  | driver
  | cache (defaultTtl : Option Duration) (call : CacheCall)
  | process (operation : Operation) (resolvers : Resolvers) (batch : List Message)

namespace SharedCall

/-- What a call that succeeds answers. -/
abbrev Reply : SharedCall → Type
  | .driver => String
  | .cache _ c => c.Reply
  | .process .. => List Message
  | .connect | .close | .acquire => Unit

/-- The call closes the connection. -/
def IsClose : SharedCall → Prop
  | .close | .cache _ .close => True
  | _ => False

/-- The call asks for nothing but that the client is up. -/
def IsConnect : SharedCall → Prop
  | .connect | .acquire | .cache _ .connect => True
  | _ => False

/-- The call needs a client for what it does then: a batch that is empty, or is not resolved, does
not come so far. -/
def NeedsClient : SharedCall → Prop
  | .acquire | .cache _ (.get _) | .cache _ (.set ..) | .cache _ (.add ..)
  | .cache _ (.delete _) => True
  | .process operation resolvers batch =>
    batch.isEmpty = false ∧ resolvers.failure? operation batch = none
  | _ => False

end SharedCall

namespace Connection

/-- The program of a call. -/
def serve (conn : Connection δ) (ctx : Context) : (c : SharedCall) → Call (Desk δ) c.Reply
  | .connect => Processor.onLink (conn.connect ctx)
  | .close => Processor.onLink (conn.close ctx)
  | .acquire => Processor.onLink (conn.acquire ctx)
  | .driver => Timed.look fun d => conn.backend? d.link.phase
  | .cache defaultTtl c => Processor.onLink ((⟨conn, defaultTtl⟩ : Cache δ).call ctx c)
  | .process operation resolvers batch => ExceptT.mk do
    Timed.change fun d => { d with resolvers }
    ((⟨conn, operation⟩ : Processor δ).process ctx batch).run

/-- What holds of the programs of the calls to close. -/
theorem serve_of_isClose {conn : Connection δ} {ctx : Context} {c : SharedCall} (hc : c.IsClose)
    {P : (α : Type) → Call (Desk δ) α → Prop} (close : P _ (Processor.onLink (conn.close ctx))) :
    P _ (conn.serve ctx c) := by
  cases c with
  | close => exact close
  | connect | acquire | driver | process => exact hc.elim
  | cache defaultTtl c =>
    cases c with
    | close => exact close
    | get | set | add | delete | connect => exact hc.elim

/-- What holds of the programs of the calls to connect. -/
theorem serve_of_isConnect {conn : Connection δ} {ctx : Context} {c : SharedCall}
    (hc : c.IsConnect) {P : (α : Type) → Call (Desk δ) α → Prop}
    (connect : P _ (Processor.onLink (conn.connect ctx)))
    (acquire : P _ (Processor.onLink (conn.acquire ctx))) : P _ (conn.serve ctx c) := by
  cases c with
  | connect => exact connect
  | acquire => exact acquire
  | close | driver | process => exact hc.elim
  | cache defaultTtl c =>
    cases c with
    | connect => exact connect
    | get | set | add | delete | close => exact hc.elim

/-- A call over the recorded connection follows the call. -/
theorem follows_serve (conn : Connection δ) (ctx : Context) (c : SharedCall) :
    Call.Follows Desk.unrecorded (conn.recorded.serve ctx c) (conn.serve ctx c) := by
  cases c with
  | connect => exact Processor.follows_onLink (conn.follows_connect ctx)
  | close => exact Processor.follows_onLink (conn.follows_close ctx)
  | acquire => exact Processor.follows_onLink (conn.follows_acquire ctx)
  | driver => exact .step id (fun _ => rfl) .done
  | cache defaultTtl c =>
    exact Processor.follows_onLink (Cache.follows_call ⟨conn, defaultTtl⟩ ctx c)
  | process operation resolvers batch =>
    exact .step id (fun _ => rfl) fun _ => Processor.follows_process ⟨conn, operation⟩ ctx batch

end Connection

/-! ## Runs -/

/-- A call, its context, when it is made, and what has become of the driver's state by then. -/
structure SharedVisit (δ : Type) where
  call : SharedCall
  ctx : Context := {}
  start : Tick := 0
  meanwhile : δ → δ := id

/-- A call in a run, and the desk at which it was made. -/
structure SharedTurn (conn : Connection δ) extends SharedVisit δ where
  found : Desk δ

namespace SharedTurn

variable {conn : Connection δ} (turn : SharedTurn conn)

/-- How the call went. -/
def outcome : Timed.Outcome Event (Desk δ) (Except Failure turn.call.Reply) :=
  (conn.serve turn.ctx turn.call).run.run none turn.start turn.found

/-- What the call told of, with the states in which it did. -/
def told : List (Event × Desk δ) :=
  ((conn.serve turn.ctx turn.call).run.witnessed.run none turn.start turn.found).events

/-- How the call went over the recorded connection. -/
def recorded : Timed.Outcome Event (Desk (Recorded δ)) (Except Failure turn.call.Reply) :=
  (conn.recorded.serve turn.ctx turn.call).run.run none turn.start turn.found.recorded

/-- The replies that the driver gave during the call. -/
def replies : List (Command × Bool) := turn.recorded.state.link.store.replies

def Succeeds : Prop := ∃ a u, turn.outcome.finished = some (.ok a, u)

def Fails (f : Failure) : Prop := ∃ u, turn.outcome.finished = some (.error f, u)

/-- The phase after the call. -/
def left : Phase := turn.outcome.state.link.phase

/-- What every call keeps to. -/
structure Guarded : Prop where
  /-- The call ends. -/
  ends : turn.Succeeds ∨ ∃ f, turn.Fails f
  /-- However a call to close ends, the connection counts as down then. -/
  closed : turn.call.IsClose → turn.left = .disconnected
  /-- So it does after a call to connect that fails. -/
  failed : turn.call.IsConnect → ∀ f, turn.Fails f → turn.left = .disconnected
  /-- If the connection counts as up, a call to connect succeeds and gives no commands. -/
  still : turn.call.IsConnect → turn.found.link.phase = .connected →
    turn.Succeeds ∧ turn.outcome.commands = []
  /-- Who asks for the driver is given it exactly if the connection counts as up. -/
  asked : turn.call = .driver → turn.outcome.commands = [] ∧
    if turn.found.link.phase = .connected then turn.Succeeds else turn.Fails .notConnected
  /-- A command for data reaches the driver only while the connection counts as up. -/
  data : ∀ c d, (.command c, d) ∈ turn.told → c.isLifecycle = false → d.link.phase = .connected
  /-- If the client that a call needs cannot be set up, the call fails in the same way, gives no
  commands for data, and leaves the connection down. -/
  lazily : turn.call.NeedsClient → turn.found.link.phase = .disconnected → ∀ f u,
    ((conn.connect turn.ctx).run.run none turn.start turn.found.link).finished =
      some (.error f, u) →
    turn.Fails f ∧ (∀ c ∈ turn.outcome.commands, c.isLifecycle = true) ∧
      turn.left = .disconnected

end SharedTurn

/-- A call as it is made: the phase is as the last call left it. -/
def SharedVisit.found (v : SharedVisit δ) (d : Desk δ) : Desk δ :=
  ⟨d.resolvers, d.link.phase, v.meanwhile d.link.store⟩

/-- The calls of a run, one after the other. -/
def Connection.turns (conn : Connection δ) : List (SharedVisit δ) → Desk δ → List (SharedTurn conn)
  | [], _ => []
  | v :: visits, d =>
    let turn : SharedTurn conn := ⟨v, v.found d⟩
    turn :: conn.turns visits turn.outcome.state

/-- In one of the calls the driver connected and then was ready, and since then nobody has
closed. -/
def IsUpAfter {conn : Connection δ} (turns : List (SharedTurn conn)) : Prop :=
  ∃ before turn after, turns = before ++ turn :: after ∧ SetUp turn.replies ∧
    ∀ later ∈ after, ¬ later.call.IsClose

/-- After each call the connection counts as up exactly if its client is, and every call keeps to
what it has to. -/
structure Tracked {conn : Connection δ} (turns : List (SharedTurn conn)) : Prop where
  /-- Setting the client up is seen from the replies of the driver alone. -/
  phase : ∀ before turn after, turns = before ++ turn :: after →
    (turn.left = .connected ↔ IsUpAfter (before ++ [turn]))
  guarded : ∀ turn ∈ turns, turn.Guarded

/-! ## Every call ends -/

/-- Programs that end are put together to programs that end. -/
theorem Call.modular_ends : Modular fun _ (x : Call σ _) => (ExceptT.run x).Ends where
  done _ := .done _
  bind hx hf := .callBind hx hf
  observed _ _ _ hx := .bind hx fun _ => .emit _ (.done _)

namespace Connection

variable (conn : Connection δ) (ctx : Context)

theorem ends_connect : (conn.connect ctx).run.Ends := by
  refine .alone (.bind (.step fun _ => .done _) fun up => ?_)
  split
  · exact .done _
  refine .bind (Context.ends_within ctx (ends_establish conn ctx)) fun r => ?_
  split
  · exact .step fun _ => .emit _ (.done _)
  refine .bind (ends_release conn ctx) fun r => ?_
  split
  · exact .done _
  · exact .emit _ (.done _)

theorem ends_close : (conn.close ctx).run.Ends := by
  refine .alone (.bind (.step fun _ => .done _) fun up => ?_)
  split
  · exact .done _
  · exact .step fun _ => .emit _ (ends_release conn ctx)

theorem ends_acquire : (conn.acquire ctx).run.Ends := by
  refine .bind (.step fun _ => .done _) fun up => ?_
  split
  · exact .done _
  · exact conn.ends_connect ctx

theorem ends_perform (c : Command) (failed : Cause → Failure) :
    (conn.perform ctx c failed).run.Ends := by
  refine .callBind (conn.ends_acquire ctx) fun _ => ?_
  obtain ⟨cancelledAt, _ | d⟩ := ctx
  · exact Context.ends_within_of_timeout (d := conn.requestTimeout) rfl _
  · exact Context.ends_within_of_timeout (d := d) rfl _

/-- Every call ends, whatever the driver does. -/
theorem ends_serve (c : SharedCall) : (conn.serve ctx c).run.Ends := by
  have onLink {α : Type} {x : Call (Link δ) α} (h : x.run.Ends) :
      (Processor.onLink x).run.Ends := by
    refine .zoom ?_ ?_ ?_ h
    · exact fun _ _ => rfl
    · exact fun _ => rfl
    · exact fun _ _ _ => rfl
  have act {α : Type} (f : Desk δ → Except Failure α × Desk δ) :
      (Timed.act f : Program (Desk δ) _).Ends := .step fun _ => .done _
  cases c with
  | connect => exact onLink (conn.ends_connect ctx)
  | close => exact onLink (conn.ends_close ctx)
  | acquire => exact onLink (conn.ends_acquire ctx)
  | driver => exact .step fun _ => .done _
  | cache defaultTtl c =>
    exact onLink (Call.modular_ends.cache ⟨conn, defaultTtl⟩ ctx (conn.ends_perform ctx)
      (conn.ends_connect ctx) fun _ => conn.ends_close ctx)
  | process operation resolvers batch =>
    have processed := Call.modular_ends.processor ⟨conn, operation⟩ ctx batch
      (fun c failed => onLink (conn.ends_perform ctx c failed)) (act _) (act _)
    exact .bind (.step fun _ => .done _) fun _ => processed

end Connection

/-! ## Calls that need a client -/

namespace Call

variable {x : Call σ α} {g : α → Call σ β} {t u : Tick} {s s₁ s' : σ} {f : Failure} {a : α}
  {cs : List Command}

/-- Started at a tick, the call fails at another one, has given some commands by then and leaves a
state. -/
def FailsBy (x : Call σ α) (t : Tick) (s : σ) (f : Failure) (u : Tick) (s' : σ)
    (cs : List Command) : Prop :=
  ∃ es, (ExceptT.run x).run none t s = ⟨some (.error f, u), s', es⟩ ∧
    es.filterMap Event.command? = cs

/-- What follows a call that fails is not done. -/
theorem FailsBy.bind (h : FailsBy x t s f u s' cs) : FailsBy (x >>= g) t s f u s' cs := by
  obtain ⟨es, hr, hc⟩ := h
  refine ⟨es, ?_, hc⟩
  rw [run_bind, hr, Timed.Outcome.andThen_some, Timed.Outcome.after, List.append_nil]

/-- What comes before does not count if it takes no time and reaches for nothing outside. -/
theorem FailsBy.of_idles (hx : Idles x t s (.ok a) s₁) (h : FailsBy (g a) t s₁ f u s' cs) :
    FailsBy (x >>= g) t s f u s' cs := by
  obtain ⟨es, hr, hes⟩ := hx none
  obtain ⟨fs, hr', hc⟩ := h
  refine ⟨es ++ fs, ?_, ?_⟩
  · rw [run_bind, hr, Timed.Outcome.andThen_some]
    simp only [hr']
    rfl
  · have quiet : es.filterMap Event.command? = [] := by
      refine List.filterMap_eq_nil_iff.2 fun e he => ?_
      cases e with
      | command c => exact nomatch hes _ he
      | _ => rfl
    rw [List.filterMap_append, quiet, hc, List.nil_append]

theorem FailsBy.observed (component operation : String) (h : FailsBy x t s f u s' cs) :
    FailsBy (observed component operation x) t s f u s' cs := by
  obtain ⟨es, hr, hc⟩ := h
  refine ⟨es ++ [.ended component operation (outcomeLabel (.error f : Except Failure α))], ?_, ?_⟩
  · rw [run_observed, hr]
    rfl
  · rw [List.filterMap_append, hc]
    exact List.append_nil cs

theorem FailsBy.onLink {x : Call (Link δ) α} {d : Desk δ} {l' : Link δ}
    (h : FailsBy x t d.link f u l' cs) :
    FailsBy (Processor.onLink x) t d f u ⟨d.resolvers, l'⟩ cs := by
  obtain ⟨es, hr, hc⟩ := h
  refine ⟨es, ?_, hc⟩
  have zoomed := Timed.run_zoom Desk.link (fun link d => { d with link }) (fun _ _ => rfl)
    (fun _ => rfl) (fun _ _ _ => rfl) (ExceptT.run x) none t d
  rw [hr] at zoomed
  exact zoomed

end Call

section

variable {conn : Connection δ} {ctx : Context} {t u : Tick} {l l' : Link δ} {f : Failure}
  {cs : List Command}

/-- A client is acquired as it is set up if there is none. -/
theorem Connection.failsBy_acquire (hl : l.phase = .disconnected)
    (h : Call.FailsBy (conn.connect ctx) t l f u l' cs) :
    Call.FailsBy (conn.acquire ctx) t l f u l' cs := by
  obtain ⟨phase, store⟩ := l
  cases hl
  exact h

theorem Connection.failsBy_perform (hl : l.phase = .disconnected)
    (h : Call.FailsBy (conn.connect ctx) t l f u l' cs) (c : Command)
    (failed : Cause → Failure) : Call.FailsBy (conn.perform ctx c failed) t l f u l' cs :=
  (failsBy_acquire hl h).bind

theorem Processor.failsBy_process {p : Processor δ} {d : Desk δ} {batch : List Message}
    (hb : batch.isEmpty = false) (hr : d.resolvers.failure? p.operation batch = none)
    (hl : d.link.phase = .disconnected)
    (h : Call.FailsBy (p.conn.connect ctx) t d.link f u l' cs) :
    ∃ rs, Call.FailsBy (p.process ctx batch) t d f u ⟨rs, l'⟩ cs := by
  have perform (rs : Resolvers) (c : Command) (failed : Cause → Failure) :
      Call.FailsBy (onLink (p.conn.perform ctx c failed)) t ⟨rs, d.link⟩ f u ⟨rs, l'⟩ cs :=
    .onLink (Connection.failsBy_perform hl h c failed)
  have found := idles_resolveKeys (t := t) batch d
  unfold process
  rw [if_neg (by rw [hb]; exact Bool.false_ne_true)]
  unfold Resolvers.failure? at hr
  cases hk : (d.resolvers.key.resolveAll batch).1 with
  | error e =>
    simp only [hk] at hr
    cases hr
  | ok keys =>
    rw [hk] at found
    simp only [hk] at hr
    cases ho : p.operation with
    | get => exact ⟨_, .observed _ _ (.of_idles found (.bind (perform _ _ _)))⟩
    | delete => exact ⟨_, .observed _ _ (.of_idles found (.bind (perform _ _ _)))⟩
    | put =>
      simp only [ho] at hr
      obtain ⟨r, rs, contents, ⟨e, rfl, he⟩ | ⟨⟨values, rfl⟩, -⟩⟩ := idles_resolveContents (t := t)
        batch ⟨{ d.resolvers with key := (d.resolvers.key.resolveAll batch).2 }, d.link⟩
      · exact nomatch he.symm.trans hr
      · exact ⟨rs, .observed _ _ (.of_idles found (.of_idles contents (.bind (perform _ _ _))))⟩

/-- A call that needs a client fails as the client fails to be set up. -/
theorem Connection.failsBy_serve {c : SharedCall} {d : Desk δ} (hc : c.NeedsClient)
    (hl : d.link.phase = .disconnected)
    (h : Call.FailsBy (conn.connect ctx) t d.link f u l' cs) :
    ∃ rs, Call.FailsBy (conn.serve ctx c) t d f u ⟨rs, l'⟩ cs := by
  have perform := failsBy_perform hl h
  have store (defaultTtl : Option Duration) (key value : Bytes) (ttl : Option Duration) :
      Call.FailsBy ((⟨conn, defaultTtl⟩ : Cache δ).store ctx key value ttl) t d.link f u l' cs := by
    cases ttl with
    | none => exact perform _ _
    | some ttl => exact perform _ _
  cases c with
  | connect | close | driver => exact hc.elim
  | acquire => exact ⟨d.resolvers, .onLink (failsBy_acquire hl h)⟩
  | cache defaultTtl c =>
    refine ⟨d.resolvers, .onLink ?_⟩
    cases c with
    | get key => exact .observed _ _ (.bind (perform _ _))
    | set key value ttl => exact .observed _ _ (store defaultTtl key value _)
    | add key value ttl =>
      refine .observed _ _ ?_
      split
      · exact .bind (perform _ _)
      · exact .bind (perform _ _)
    | delete key => exact .observed _ _ (perform (.delete key) _)
    | connect | close => exact hc.elim
  | process operation resolvers batch =>
    obtain ⟨hb, hr⟩ := hc
    have processed := Processor.failsBy_process (p := ⟨conn, operation⟩)
      (d := { d with resolvers }) hb hr hl h
    exact processed

end

/-! ## What each call keeps to -/

namespace Connection

variable {conn : Connection δ} {found : Phase}

/-- Every call but one to close. -/
theorem guards_serve (hq : conn.driver.Silent) (ctx : Context) {c : SharedCall}
    (hc : ¬ c.IsClose) : GuardsDesk found (conn.recorded.serve ctx c) := by
  cases c with
  | connect => exact (conn.guards_of_connect hq ctx).onLink
  | close => exact absurd trivial hc
  | acquire => exact (conn.guards_of_acquire hq ctx).onLink
  | driver => exact fun _ _ h => ⟨fun _ => h, fun _ => h, h⟩
  | cache defaultTtl c =>
    have hcc : c ≠ .close := fun h => hc (h ▸ trivial)
    exact (Cache.guards_call ⟨conn, defaultTtl⟩ hq ctx hcc).onLink
  | process operation resolvers batch =>
    have processed : GuardsDesk found (Processor.process ⟨conn.recorded, operation⟩ ctx batch) :=
      Processor.guards_process ⟨conn, operation⟩ hq ctx batch
    exact fun cs d h => ⟨fun _ => h, processed cs { d with resolvers } h⟩

/-- The terms at a desk. -/
abbrev guardingDesk : Terms (Desk (Recorded δ)) := guarding fun d => d.link.phase = .connected

/-- A call to close. -/
theorem ensures_serve_close (hq : conn.driver.Silent) (ctx : Context) {c : SharedCall}
    (hc : c.IsClose) {d : Desk (Recorded δ)} (hn : (.ready, true) ∉ d.link.store.replies) :
    Ensures guardingDesk (conn.recorded.serve ctx c).run (fun _ _ => True)
      (fun _ _ d => d.link.Unready) [] d := by
  have closed : Ensures guardingDesk (Processor.onLink (conn.recorded.close ctx)).run
      (fun _ _ => True) (fun _ _ d => d.link.Unready) [] d :=
    (Processor.guards_onLink (guards_close hq ctx hn)).mono (fun _ _ _ => trivial)
      fun _ _ _ h => h
  exact serve_of_isClose (P := fun _ x => Ensures guardingDesk (ExceptT.run x) (fun _ _ => True)
    (fun _ _ d => d.link.Unready) [] d) hc closed

/-- A call to connect succeeds exactly if the connection counts as up then. -/
theorem ensures_serve_connect (hq : conn.driver.Silent) (ctx : Context) {c : SharedCall}
    (hc : c.IsConnect) {d : Desk (Recorded δ)} (h : d.link.Standing found) :
    Ensures guardingDesk (conn.recorded.serve ctx c).run (fun _ _ => True)
      (fun r _ d => r.isOk = true ↔ d.link.phase = .connected) [] d := by
  have onLink {x : Call (Link (Recorded δ)) Unit}
      (hx : Ensures (guarding fun l => l.phase = .connected) x.run (fun _ => Link.Standing found)
        (fun r _ l => l.Standing found ∧ (r = .ok () ↔ l.phase = .connected)) [] d.link) :
      Ensures guardingDesk (Processor.onLink x).run (fun _ _ => True)
        (fun r _ d => r.isOk = true ↔ d.link.phase = .connected) [] d := by
    refine (Processor.guards_onLink hx).mono (fun _ _ _ => trivial) ?_
    rintro r _ d ⟨-, hr⟩
    rw [← hr]
    cases r with
    | ok a => exact iff_of_true rfl rfl
    | error f => exact iff_of_false nofun nofun
  exact serve_of_isConnect (P := fun _ x => Ensures guardingDesk (ExceptT.run x) (fun _ _ => True)
    (fun r _ d => r.isOk = true ↔ d.link.phase = .connected) [] d) hc
    (onLink (guards_connect hq ctx h)) (onLink (guards_acquire hq ctx h))

/-- While the client is up there is nothing to do for a call to connect. -/
theorem settles_serve_connect (ctx : Context) {c : SharedCall} (hc : c.IsConnect) {d : Desk δ}
    (hl : d.link.phase = .connected) :
    ∃ a, Call.Settles (conn.serve ctx c) d (.ok a) d [] := by
  have onLink {x : Call (Link δ) Unit} (hx : Call.Settles x d.link (.ok ()) d.link []) :
      ∃ a, Call.Settles (Processor.onLink x) d (.ok a) d [] :=
    ⟨(), .zoom (fun _ _ => rfl) (fun _ => rfl) (fun _ _ _ => rfl) hx rfl⟩
  exact serve_of_isConnect (P := fun _ x => ∃ a, Call.Settles x d (.ok a) d []) hc
    (onLink (settles_connect_of_connected hl)) (onLink (settles_acquire_of_connected hl))

/-- A call to connect that fails leaves the connection down, and gives no commands for data. -/
theorem connect_of_error (hq : conn.driver.Silent) {ctx : Context} {t u : Tick} {l : Link δ}
    {f : Failure} (hf : ((conn.connect ctx).run.run none t l).finished = some (.error f, u)) :
    ((conn.connect ctx).run.run none t l).state.phase = .disconnected ∧
      ∀ c ∈ ((conn.connect ctx).run.run none t l).commands, c.isLifecycle = true := by
  have standing : (⟨l.phase, [], l.store⟩ : Link (Recorded δ)).Standing l.phase :=
    ⟨.inl, fun h => ⟨h, nofun⟩⟩
  -- On these terms no command for data may be told at all.
  have connect : Ensures (guarding fun _ => False) _ _ _ [] _ := guards_connect hq ctx standing
  have seen := (conn.follows_connect ctx).run none t ⟨l.phase, [], l.store⟩
  have told (c : Command) (hc : c ∈ ((conn.recorded.connect ctx).run.run none t
      ⟨l.phase, [], l.store⟩).commands) : c.isLifecycle = true :=
    (connect.told_of_mem hc).elim fun _ h => h.resolve_right id
  obtain ⟨-, ended, -⟩ := connect.run none t
  generalize (conn.recorded.connect ctx).run.run none t ⟨l.phase, [], l.store⟩ = o at *
  obtain ⟨finished, l', es⟩ := o
  have hr : (conn.connect ctx).run.run none t l = ⟨finished, l'.unrecorded, es.map id⟩ := seen.symm
  rw [hr] at hf ⊢
  obtain ⟨-, hp⟩ := ended (.error f) u hf
  rw [List.map_id]
  refine ⟨?_, told⟩
  cases hl : l'.phase with
  | disconnected => exact hl
  | connected => exact nomatch hp.2 hl

end Connection

namespace SharedTurn

variable {conn : Connection δ} (turn : SharedTurn conn)

/-- But for the record, the call goes over the recorded connection as over the other. -/
theorem seen_recorded : turn.recorded.seen Desk.unrecorded id = turn.outcome :=
  (conn.follows_serve turn.ctx turn.call).run none turn.start turn.found.recorded

theorem finished_recorded : turn.recorded.finished = turn.outcome.finished :=
  congrArg Timed.Outcome.finished turn.seen_recorded

theorem phase_recorded : turn.recorded.state.link.phase = turn.left :=
  congrArg (fun o => o.state.link.phase) turn.seen_recorded

/-- A new record speaks for nothing yet. -/
theorem standing_found : turn.found.recorded.link.Standing turn.found.link.phase :=
  ⟨.inl, fun h => ⟨h, nofun⟩⟩

variable {turn}

section

variable {inv : List Command → Desk (Recorded δ) → Prop}
  {post : Except Failure turn.call.Reply → List Command → Desk (Recorded δ) → Prop}

/-- The commands that a call over the recorded connection answers for. -/
theorem told_of_ensures (h : Ensures Connection.guardingDesk
      (conn.recorded.serve turn.ctx turn.call).run inv post [] turn.found.recorded)
    {c : Command} {d : Desk δ} (hc : (.command c, d) ∈ turn.told) :
    c.isLifecycle = true ∨ d.link.phase = .connected := by
  have seen := (conn.follows_serve turn.ctx turn.call).witnessed.run none turn.start
    turn.found.recorded
  have events : turn.told = _ := (congrArg Timed.Outcome.events seen).symm
  rw [events] at hc
  obtain ⟨⟨e, d'⟩, hd, he⟩ := List.mem_map.1 hc
  cases he
  exact (h.run none turn.start).1 c d' hd

/-- The state that a call over the recorded connection answers for. -/
theorem ended_of_ensures (h : Ensures Connection.guardingDesk
      (conn.recorded.serve turn.ctx turn.call).run inv post [] turn.found.recorded) :
    ∃ r u cs, turn.outcome.finished = some (r, u) ∧ post r cs turn.recorded.state := by
  obtain ⟨r, u, hr⟩ := conn.ends_serve turn.ctx turn.call turn.start turn.found
  exact ⟨r, u, _, hr, (h.run none turn.start).2.1 r u (turn.finished_recorded.trans hr)⟩

end

theorem ends (turn : SharedTurn conn) : turn.Succeeds ∨ ∃ f, turn.Fails f := by
  obtain ⟨r, u, hr⟩ := conn.ends_serve turn.ctx turn.call turn.start turn.found
  cases r with
  | ok a => exact .inl ⟨a, u, hr⟩
  | error f => exact .inr ⟨f, u, hr⟩

/-- A call to close leaves the connection down, and does not set a client up. -/
theorem unready_of_isClose (hq : conn.driver.Silent) (hc : turn.call.IsClose) :
    turn.recorded.state.link.Unready := by
  obtain ⟨-, -, -, -, unready⟩ :=
    ended_of_ensures (Connection.ensures_serve_close hq turn.ctx hc nofun)
  exact unready

theorem standing_of_not_isClose (hq : conn.driver.Silent) (hc : ¬ turn.call.IsClose) :
    turn.recorded.state.link.Standing turn.found.link.phase := by
  obtain ⟨-, -, -, -, standing⟩ :=
    ended_of_ensures (Connection.guards_serve hq turn.ctx hc [] _ turn.standing_found)
  exact standing

/-- How a call moves the connection. -/
theorem left_eq_connected_iff (hq : conn.driver.Silent) (turn : SharedTurn conn) :
    turn.left = .connected ↔
      SetUp turn.replies ∨ turn.found.link.phase = .connected ∧ ¬ turn.call.IsClose := by
  by_cases hc : turn.call.IsClose
  · have unready := unready_of_isClose hq hc
    refine iff_of_false ?_ ?_
    · rw [← phase_recorded, unready.phase]
      nofun
    · rintro (hs | ⟨-, hn⟩)
      · exact unready.unready hs.ready_mem
      · exact hn hc
  · rw [← phase_recorded, (standing_of_not_isClose hq hc).iff]
    exact ⟨fun h => h.symm.imp_right fun h => ⟨h, hc⟩, fun h => h.symm.imp_left And.left⟩

/-- When a call gives commands for data. -/
theorem data (hq : conn.driver.Silent) {c : Command} {d : Desk δ}
    (hd : (.command c, d) ∈ turn.told) (hc : c.isLifecycle = false) :
    d.link.phase = .connected := by
  have told : c.isLifecycle = true ∨ d.link.phase = .connected := by
    by_cases hc : turn.call.IsClose
    · exact told_of_ensures (Connection.ensures_serve_close hq turn.ctx hc nofun) hd
    · exact told_of_ensures (Connection.guards_serve hq turn.ctx hc [] _ turn.standing_found) hd
  rw [hc] at told
  exact told.resolve_left nofun

theorem asked (hc : turn.call = .driver) : turn.outcome.commands = [] ∧
    if turn.found.link.phase = .connected then turn.Succeeds else turn.Fails .notConnected := by
  obtain ⟨⟨call, ctx, start, meanwhile⟩, resolvers, phase, store⟩ := turn
  cases hc
  refine ⟨rfl, ?_⟩
  cases phase with
  | connected =>
    rw [if_pos rfl]
    exact ⟨conn.driver.name, start, rfl⟩
  | disconnected =>
    rw [if_neg nofun]
    exact ⟨start, rfl⟩

/-- The call fails as the client that it needs fails to be set up. -/
theorem lazily (hq : conn.driver.Silent) (hc : turn.call.NeedsClient)
    (hl : turn.found.link.phase = .disconnected) {f : Failure} {u : Tick}
    (hf : ((conn.connect turn.ctx).run.run none turn.start turn.found.link).finished =
      some (.error f, u)) :
    turn.Fails f ∧ (∀ c ∈ turn.outcome.commands, c.isLifecycle = true) ∧
      turn.left = .disconnected := by
  obtain ⟨hp, hcs⟩ := Connection.connect_of_error hq hf
  generalize ho : (conn.connect turn.ctx).run.run none turn.start turn.found.link = o at *
  obtain ⟨finished, l', es⟩ := o
  cases hf
  obtain ⟨rs, fs, hrun, hfs⟩ := Connection.failsBy_serve hc hl ⟨es, ho, rfl⟩
  have hr : turn.outcome = ⟨some (.error f, u), ⟨rs, l'⟩, fs⟩ := hrun
  have commands : turn.outcome.commands = es.filterMap Event.command? := by
    rw [hr]
    exact hfs
  refine ⟨⟨u, congrArg Timed.Outcome.finished hr⟩, commands ▸ hcs, ?_⟩
  rw [left, hr]
  exact hp

theorem guarded (hq : conn.driver.Silent) (turn : SharedTurn conn) : turn.Guarded where
  ends := turn.ends
  closed hc := turn.phase_recorded.symm.trans (unready_of_isClose hq hc).phase
  failed hc f hf := by
    obtain ⟨r, u, cs, hr, hp⟩ :=
      ended_of_ensures (Connection.ensures_serve_connect hq turn.ctx hc turn.standing_found)
    obtain ⟨v, hv⟩ := hf
    cases hr.symm.trans hv
    rw [phase_recorded] at hp
    cases hl : turn.left with
    | disconnected => rfl
    | connected => exact nomatch hp.2 hl
  still hc hl := by
    obtain ⟨a, ha⟩ := Connection.settles_serve_connect turn.ctx hc hl
    have hr : turn.outcome = _ := ha none turn.start
    exact ⟨⟨a, turn.start, congrArg Timed.Outcome.finished hr⟩,
      congrArg Timed.Outcome.commands hr⟩
  asked := asked
  data _ _ hd hc := data hq hd hc
  lazily hc hl _ _ hf := lazily hq hc hl hf

end SharedTurn

/-! ## All calls of a run -/

theorem isUpAfter_append_singleton {conn : Connection δ} {turns : List (SharedTurn conn)}
    {turn : SharedTurn conn} : IsUpAfter (turns ++ [turn]) ↔
      SetUp turn.replies ∨ IsUpAfter turns ∧ ¬ turn.call.IsClose := by
  constructor
  · rintro ⟨before, first, after, heq, hs, hn⟩
    -- The last call is the one that set the client up, or it came later.
    rcases List.eq_nil_or_concat after with rfl | ⟨after, last, rfl⟩
    · obtain ⟨-, he⟩ := List.append_inj' heq rfl
      cases he
      exact .inl hs
    · rw [List.concat_eq_append] at heq hn
      rw [← List.cons_append, ← List.append_assoc] at heq
      obtain ⟨rfl, he⟩ := List.append_inj' heq rfl
      cases he
      refine .inr ⟨⟨before, first, after, rfl, hs, fun later hl => hn later ?_⟩, hn _ ?_⟩
      · exact List.mem_append_left _ hl
      · exact List.mem_append_right _ List.mem_cons_self
  · rintro (hs | ⟨⟨before, first, after, rfl, hs, hn⟩, hc⟩)
    · exact ⟨turns, turn, [], rfl, hs, fun later hl => absurd hl List.not_mem_nil⟩
    · refine ⟨before, first, after ++ [turn], by simp, hs, fun later hl => ?_⟩
      rcases List.mem_append.1 hl with hl | hl
      · exact hn later hl
      · exact List.mem_singleton.1 hl ▸ hc

namespace Connection

variable {conn : Connection δ}

/-- What has gone before a run counts for it. -/
theorem phase_turns (hq : conn.driver.Silent) (visits : List (SharedVisit δ)) {d : Desk δ}
    {past : List (SharedTurn conn)} (hd : d.link.phase = .connected ↔ IsUpAfter past)
    {before : List (SharedTurn conn)} {turn : SharedTurn conn} {after : List (SharedTurn conn)}
    (h : conn.turns visits d = before ++ turn :: after) :
    turn.left = .connected ↔ IsUpAfter (past ++ before ++ [turn]) := by
  induction visits generalizing d past before with
  | nil => simp [turns] at h
  | cons v visits ih =>
    have moved := SharedTurn.left_eq_connected_iff hq (⟨v, v.found d⟩ : SharedTurn conn)
    have hv : (⟨v, v.found d⟩ : SharedTurn conn).left = .connected ↔
        IsUpAfter (past ++ [⟨v, v.found d⟩]) := by
      rw [moved, isUpAfter_append_singleton, ← hd]
      rfl
    cases before with
    | nil =>
      cases h
      rw [List.append_nil]
      exact hv
    | cons first before =>
      -- For the calls that follow, the first one is a thing of the past.
      obtain ⟨rfl, h'⟩ := List.cons.inj h
      have hp := ih hv h'
      rwa [List.append_assoc past, List.singleton_append] at hp

/-- A connection that is shared knows after each call whether its client is up, and gives no
commands for data while it is not. -/
theorem tracked_turns (hq : conn.driver.Silent) (visits : List (SharedVisit δ))
    (resolvers : Resolvers) (store : δ) :
    Tracked (conn.turns visits ⟨resolvers, .disconnected, store⟩) where
  phase before turn after h := by
    have down : ¬ IsUpAfter ([] : List (SharedTurn conn)) := by
      rintro ⟨before, turn, after, heq, -⟩
      exact absurd (List.append_eq_nil_iff.1 heq.symm).2 (List.cons_ne_nil _ _)
    have start : Phase.disconnected = .connected ↔ IsUpAfter ([] : List (SharedTurn conn)) :=
      iff_of_false nofun down
    exact phase_turns hq visits start h
  guarded turn _ := turn.guarded hq

/-- Four calls: to look a key up, when the backend is late; to close, which the driver refuses; to
connect, when the driver does not answer; and to look a batch up. -/
def ordeal : List (SharedVisit (Scripted (Clocked Memory))) :=
  [⟨.cache none (.get [1]), {}, 0, id⟩, ⟨.close, {}, 200, id⟩,
    ⟨.connect, { timeout := some (.ofMillis 500) }, 200, id⟩,
    ⟨.process .get ⟨.content, none⟩ [{ content := [1] }], {}, 3000, id⟩]

/-- A desk whose driver has moods. -/
def moody : Desk (Scripted (Clocked Memory)) :=
  ⟨⟨.content, none⟩, .disconnected, [("ready", [{ fail := some (.text "no") }]),
    ("close", [{ fail := some (.text "no") }]), ("connect", [{}, { hang := true }])], 0, .empty⟩

/-- The connection knows about its client in all of them. -/
theorem tracked_turns_of_ordeal : rehearsed.driver.Silent ∧
    (rehearsed.turns ordeal moody).map SharedTurn.left =
      [.connected, .disconnected, .disconnected, .connected] ∧
    (rehearsed.turns ordeal moody).map (fun turn => decide (SetUp turn.replies)) =
      [true, false, false, true] ∧ Tracked (rehearsed.turns ordeal moody) := by
  have hq : rehearsed.driver.Silent := Scripted.silent_driver (Clocked.silent_driver _ _ _)
  exact ⟨hq, by decide +kernel, by decide +kernel,
    tracked_turns hq ordeal moody.resolvers moody.link.store⟩

end Connection

end KvBridge
