import KvBridge.Cache
import KvBridge.Proofs.Timed.Instant
import KvBridge.Store.Memory
import KvBridge.Stream.Writer
import KvBridge.Writer

/-!
# Calls that are cancelled beforehand

A call within a context that is cancelled when the call is made idles (`Timed.Idles`): it ends in
the tick in which it was made, and reaches for nothing outside, neither for a driver nor for a
service. It may still be answered as usual if it needs neither: when the client is up or the channel
is open already, when there is nothing to release, when a batch is empty or does not resolve, when
no channel is open. All other calls are answered that they are cancelled. The only thing that such a
call can change is that a connection counts as down, which it does after a call to close it.

A call is meant here that has its connection or its stream to itself. If another one is in the
exclusive part it has to wait for that one first, cancelled or not. Then too it touches nothing
outside (`Context.abstains_of_isCancelled`).

* `Connection.forestalled`, `Cache.forestalled`: connections and caches;
* `Processor.forestalled`, `Writer.forestalled`: batches;
* `Stream.Writer.forestalled`: streams.
-/

namespace KvBridge

variable {σ τ α β δ : Type}

/-- The event tells of something outside: a driver, a database or a service. -/
def Event.isOutward : Event → Bool
  | .command _ | .login .. | .statement _ | .post _ => true
  | .notice .. | .ended .. => false

/-! ## Idling -/

/-- Started at a tick, the program ends in it with an answer, and tells of nothing outside. -/
def Timed.Idles (x : Program σ α) (t : Tick) (s : σ) (a : α) (s' : σ) : Prop :=
  ∀ horizon, ∃ es, x.run horizon t s = ⟨some (a, t), s', es⟩ ∧ ∀ e ∈ es, e.isOutward = false

namespace Timed.Idles

variable {x : Program σ α} {t : Tick} {s s₁ s₂ : σ} {a : α} {b : β} {es : List Event}

theorem of_settles (h : x.Settles s a s₁ es) (hes : ∀ e ∈ es, e.isOutward = false) :
    x.Idles t s a s₁ := fun horizon => ⟨es, h horizon t, hes⟩

theorem done (a : α) (s : σ) : (Timed.done a : Program σ α).Idles t s a s :=
  of_settles (.done a s) nofun

theorem look (f : σ → β) (s : σ) : (Timed.look f : Program σ β).Idles t s (f s) s :=
  of_settles (.look f s) nofun

theorem act (f : σ → β × σ) (s : σ) : (Timed.act f : Program σ β).Idles t s (f s).1 (f s).2 :=
  of_settles (.act f s) nofun

theorem change (f : σ → σ) (s : σ) : (Timed.change f : Program σ Unit).Idles t s () (f s) :=
  of_settles (.change f s) nofun

theorem notice (level : Level) (text : String) (s : σ) :
    (KvBridge.notice level text : Program σ Unit).Idles t s () s := by
  refine of_settles (.tell _ s) fun e he => ?_
  rw [List.mem_singleton.1 he]
  rfl

theorem bind {f : α → Program σ β} (hx : x.Idles t s a s₁) (hf : (f a).Idles t s₁ b s₂) :
    (x.bind f).Idles t s b s₂ := by
  intro horizon
  obtain ⟨es, hr, he⟩ := hx horizon
  obtain ⟨fs, hr', he'⟩ := hf horizon
  refine ⟨es ++ fs, ?_, fun e h => (List.mem_append.1 h).elim (he e) (he' e)⟩
  rw [run_bind, hr, Outcome.andThen_some, hr']
  rfl

theorem alone (hx : x.Idles t s a s₁) : (Timed.alone x).Idles t s a s₁ := by
  intro horizon
  rw [run_alone]
  exact hx horizon

theorem zoom {get : σ → τ} {put : τ → σ → σ} {x : Program τ α} {r r₁ : τ}
    (get_put : ∀ t s, get (put t s) = t) (put_get : ∀ s, put (get s) s = s)
    (put_put : ∀ t t' s, put t' (put t s) = put t' s) (hx : x.Idles t r a r₁) (hr : get s = r) :
    (x.zoom get put).Idles t s a (put r₁ s) := by
  intro horizon
  obtain ⟨es, h, he⟩ := hx horizon
  refine ⟨es, ?_, he⟩
  rw [run_zoom get put get_put put_get put_put, hr, h]

/-- Work within a context that is cancelled when it starts is not done. -/
theorem within {ctx : Context} (hc : ctx.isCancelled t = true)
    (body : Program σ (Except Failure α)) (s : σ) :
    (ctx.within body).Idles t s (.error .cancelled) s :=
  fun horizon => ⟨[], Context.run_within_of_isCancelled hc body horizon s, nofun⟩

end Timed.Idles

namespace Call

variable {x : Call σ α} {f : α → Call σ β} {t : Tick} {s s₁ s₂ : σ} {a : α} {e : Failure}
  {r : Except Failure β}

/-- A call idles: its program does. -/
abbrev Idles (x : Call σ α) (t : Tick) (s : σ) (r : Except Failure α) (s' : σ) : Prop :=
  Timed.Idles (ExceptT.run x) t s r s'

theorem Idles.bind_ok (hx : Idles x t s (.ok a) s₁) (hf : Idles (f a) t s₁ r s₂) :
    Idles (x >>= f) t s r s₂ :=
  Timed.Idles.bind (f := ExceptT.bindCont f) hx hf

/-- What follows a call that fails is not done. -/
theorem Idles.bind_error (hx : Idles x t s (.error e) s₁) :
    Idles (x >>= f) t s (.error e) s₁ :=
  Timed.Idles.bind (f := ExceptT.bindCont f) hx (.done _ _)

/-- A part that cannot fail. -/
theorem Idles.lift {x : Program σ α} (hx : x.Idles t s a s₁) :
    Idles (ExceptT.lift x) t s (.ok a) s₁ := Timed.Idles.bind hx (.done _ _)

/-- An answer that is known without the state. -/
theorem Idles.result {r r' : Except Failure α} (h : r' = r) :
    Idles (ExceptT.mk (.done r') : Call σ α) t s r s := h ▸ .done r s

theorem Idles.observed (component operation : String) {r : Except Failure α}
    (hx : Idles x t s r s₁) : Idles (observed component operation x) t s r s₁ := by
  refine Timed.Idles.bind hx (.bind (.of_settles (.tell _ _) fun e he => ?_) (.done _ _))
  rw [List.mem_singleton.1 he]
  rfl

end Call

/-! ## Connections -/

namespace Connection

variable (conn : Connection δ) {ctx : Context} {t : Tick}

/-- What the calls to a connection come to that are cancelled beforehand. -/
structure Forestalled (ctx : Context) (t : Tick) (l : Link δ) : Prop where
  connect : Call.Idles (conn.connect ctx) t l
    (if l.phase = .connected then .ok () else .error .cancelled) l
  acquire : Call.Idles (conn.acquire ctx) t l
    (if l.phase = .connected then .ok () else .error .cancelled) l
  close : Call.Idles (conn.close ctx) t l
    (if l.phase = .connected then .error .cancelled else .ok ()) ⟨.disconnected, l.store⟩

/-- Of the context only its token matters, so a deadline from elsewhere changes nothing. -/
theorem idles_request (hc : ctx.isCancelled t = true) (c : Command) (failed : Cause → Failure)
    (l : Link δ) : Call.Idles (conn.request ctx c failed) t l (.error .cancelled) l :=
  have hc' : (ctx.orTimeout conn.requestTimeout).isCancelled t = true := hc
  .within hc' _ l

theorem idles_connect (hc : ctx.isCancelled t = true) (l : Link δ) :
    Call.Idles (conn.connect ctx) t l
      (if l.phase = .connected then .ok () else .error .cancelled) l := by
  have look : Timed.Idles isConnected t l (l.phase == .connected) l := .look _ l
  obtain ⟨phase, store⟩ := l
  refine Timed.Idles.alone (.bind look ?_)
  cases phase with
  | connected => exact .done _ _
  | disconnected =>
    -- The client is released within the same context, so that does nothing either.
    have released := conn.idles_request hc .close (.transport "close" none)
      ⟨.disconnected, store⟩
    exact .bind (.within hc _ _) (.bind released (.bind (.notice _ _ _) (.done _ _)))

theorem idles_acquire (hc : ctx.isCancelled t = true) (l : Link δ) :
    Call.Idles (conn.acquire ctx) t l
      (if l.phase = .connected then .ok () else .error .cancelled) l := by
  have look : Timed.Idles isConnected t l (l.phase == .connected) l := .look _ l
  have connect := conn.idles_connect hc l
  obtain ⟨phase, store⟩ := l
  refine Timed.Idles.bind look ?_
  cases phase with
  | connected => exact .done _ _
  | disconnected => exact connect

theorem idles_close (hc : ctx.isCancelled t = true) (l : Link δ) :
    Call.Idles (conn.close ctx) t l
      (if l.phase = .connected then .error .cancelled else .ok ()) ⟨.disconnected, l.store⟩ := by
  have look : Timed.Idles isConnected t l (l.phase == .connected) l := .look _ l
  obtain ⟨phase, store⟩ := l
  refine Timed.Idles.alone (.bind look ?_)
  cases phase with
  | disconnected => exact .done _ _
  | connected =>
    have released := conn.idles_request hc .close (.transport "close" none)
      ⟨.disconnected, store⟩
    exact .bind (.change _ _) (.bind (.notice _ _ _) released)

theorem forestalled (hc : ctx.isCancelled t = true) (l : Link δ) : conn.Forestalled ctx t l :=
  ⟨conn.idles_connect hc l, conn.idles_acquire hc l, conn.idles_close hc l⟩

/-- Whether or not the client is up, a command is not given. -/
theorem idles_perform (hc : ctx.isCancelled t = true) (c : Command) (failed : Cause → Failure)
    (l : Link δ) : Call.Idles (conn.perform ctx c failed) t l (.error .cancelled) l := by
  have acquire := conn.idles_acquire hc l
  by_cases hl : l.phase = .connected
  · rw [if_pos hl] at acquire
    exact acquire.bind_ok (conn.idles_request hc c failed l)
  · rw [if_neg hl] at acquire
    exact acquire.bind_error

end Connection

/-! ## Caches -/

namespace Cache

variable (cache : Cache δ) {ctx : Context} {t : Tick}

/-- What the calls to a cache come to that are cancelled beforehand. -/
structure Forestalled (ctx : Context) (t : Tick) (l : Link δ) : Prop where
  get : ∀ key, Call.Idles (cache.get ctx key) t l (.error .cancelled) l
  set : ∀ key value ttl, Call.Idles (cache.set ctx key value ttl) t l (.error .cancelled) l
  add : ∀ key value ttl, Call.Idles (cache.add ctx key value ttl) t l (.error .cancelled) l
  delete : ∀ key, Call.Idles (cache.delete ctx key) t l (.error .cancelled) l

theorem forestalled (hc : ctx.isCancelled t = true) (l : Link δ) : cache.Forestalled ctx t l where
  get key := .observed _ _ (.bind_error (cache.conn.idles_perform hc _ _ l))
  set key value ttl := by
    refine .observed _ _ ?_
    unfold store
    split
    · exact cache.conn.idles_perform hc (.put key value) _ l
    · exact cache.conn.idles_perform hc (.putWithTtl key value _) _ l
  add key value ttl := by
    refine .observed _ _ ?_
    split
    · exact .bind_error (cache.conn.idles_perform hc _ _ l)
    · exact .bind_error (cache.conn.idles_perform hc _ _ l)
  delete key := .observed _ _ (cache.conn.idles_perform hc _ _ l)

end Cache

/-! ## Batches -/

/-- Why the values of a batch cannot be found, if they cannot. -/
def Resolvers.contentFailure? (rs : Resolvers) (batch : List Message) : Option Failure :=
  match rs.content with
  | none => some Processor.contentMissing
  | some resolver =>
    match (resolver.resolveAll batch).1 with
    | .error f => some f
    | .ok _ => none

/-- Why the keys of a batch, or the values that are to be written, cannot be found. -/
def Resolvers.failure? (rs : Resolvers) (operation : Operation) (batch : List Message) :
    Option Failure :=
  match (rs.key.resolveAll batch).1, operation with
  | .error f, _ => some f
  | .ok _, .put => rs.contentFailure? batch
  | .ok _, .get | .ok _, .delete => none

namespace Processor

variable (p : Processor δ) {ctx : Context} {t : Tick}

/-- What is answered for a batch when the call is cancelled beforehand. -/
def forestalledAnswer (rs : Resolvers) (batch : List Message) : Except Failure (List Message) :=
  if batch.isEmpty then .ok []
  else .error ((rs.failure? p.operation batch).getD .cancelled)

/-- What a batch comes to that is cancelled beforehand. Resolvers may have drawn identifiers. -/
def Forestalled (ctx : Context) (t : Tick) (batch : List Message) (d : Desk δ) : Prop :=
  ∃ rs, Call.Idles (p.process ctx batch) t d (p.forestalledAnswer d.resolvers batch) ⟨rs, d.link⟩

theorem idles_onLink_perform (hc : ctx.isCancelled t = true) (c : Command)
    (failed : Cause → Failure) (d : Desk δ) :
    Call.Idles (onLink (p.conn.perform ctx c failed)) t d (.error .cancelled) d :=
  Timed.Idles.zoom (fun _ _ => rfl) (fun _ => rfl) (fun _ _ _ => rfl)
    (p.conn.idles_perform hc c failed d.link) rfl

theorem idles_resolveKeys (batch : List Message) (d : Desk δ) :
    Call.Idles (resolveKeys batch) t d (d.resolvers.key.resolveAll batch).1
      ⟨{ d.resolvers with key := (d.resolvers.key.resolveAll batch).2 }, d.link⟩ :=
  Timed.Idles.act _ d

/-- Values are not found, or they are and the link is as it was. -/
theorem idles_resolveContents (batch : List Message) (d : Desk δ) :
    ∃ r rs, Call.Idles (resolveContents batch) t d r ⟨rs, d.link⟩ ∧
      ((∃ f, r = .error f ∧ d.resolvers.contentFailure? batch = some f) ∨
        (∃ values, r = .ok values) ∧ d.resolvers.contentFailure? batch = none) := by
  have found : Call.Idles (resolveContents batch) t d _ _ := Timed.Idles.act _ d
  obtain ⟨⟨key, content⟩, link⟩ := d
  cases content with
  | none => exact ⟨_, _, found, .inl ⟨_, rfl, rfl⟩⟩
  | some resolver =>
    unfold Resolvers.contentFailure?
    refine ⟨_, _, found, ?_⟩
    show (∃ f, (resolver.resolveAll batch).1 = .error f ∧ _) ∨ _
    cases hv : (resolver.resolveAll batch).1 with
    | error f => exact .inl ⟨f, rfl, by simp only [hv]⟩
    | ok values => exact .inr ⟨⟨values, rfl⟩, by simp only [hv]⟩

/-- Writing fails before the store is asked if the values are not found. -/
theorem idles_put (hc : ctx.isCancelled t = true) (batch : List Message) (keys : List Bytes)
    (d : Desk δ) : ∃ rs, Call.Idles (p.put ctx batch keys) t d
      (.error ((d.resolvers.contentFailure? batch).getD .cancelled)) ⟨rs, d.link⟩ := by
  obtain ⟨r, rs, found, ⟨f, rfl, hf⟩ | ⟨⟨values, rfl⟩, hf⟩⟩ := idles_resolveContents batch d
  · rw [hf]
    exact ⟨rs, found.bind_error⟩
  · rw [hf]
    exact ⟨rs, found.bind_ok (.bind_error (p.idles_onLink_perform hc _ _ _))⟩

theorem forestalled (hc : ctx.isCancelled t = true) (batch : List Message) (d : Desk δ) :
    p.Forestalled ctx t batch d := by
  unfold Forestalled process forestalledAnswer
  by_cases hb : batch.isEmpty = true
  · rw [if_pos hb, if_pos hb]
    exact ⟨d.resolvers, .done _ d⟩
  rw [if_neg hb, if_neg hb]
  unfold Resolvers.failure?
  have found := idles_resolveKeys (t := t) batch d
  cases hk : (d.resolvers.key.resolveAll batch).1 with
  | error f =>
    rw [hk] at found
    exact ⟨_, .observed _ _ found.bind_error⟩
  | ok keys =>
    rw [hk] at found
    cases ho : p.operation with
    | get =>
      exact ⟨_, .observed _ _ (found.bind_ok (.bind_error (p.idles_onLink_perform hc _ _ _)))⟩
    | delete =>
      exact ⟨_, .observed _ _ (found.bind_ok (.bind_error (p.idles_onLink_perform hc _ _ _)))⟩
    | put =>
      -- The values are found by the resolver that is there from the start.
      obtain ⟨rs, put⟩ := p.idles_put hc batch keys
        ⟨{ d.resolvers with key := (d.resolvers.key.resolveAll batch).2 }, d.link⟩
      exact ⟨rs, .observed _ _ (found.bind_ok put)⟩

end Processor

/-! ## Batch writers -/

namespace Writer

variable (w : Writer δ) {ctx : Context} {t : Tick}

/-- What storing a batch comes to that is cancelled beforehand. -/
def Forestalled (ctx : Context) (t : Tick) (batch : List Message) (d : Desk δ) : Prop :=
  ∃ rs, Call.Idles (w.write ctx batch) t d
    ((w.processor.forestalledAnswer d.resolvers batch).map fun _ => ()) ⟨rs, d.link⟩

theorem forestalled (hc : ctx.isCancelled t = true) (batch : List Message) (d : Desk δ) :
    w.Forestalled ctx t batch d := by
  obtain ⟨rs, processed⟩ := w.processor.forestalled hc batch d
  refine ⟨rs, ?_⟩
  cases ha : w.processor.forestalledAnswer d.resolvers batch with
  | error f =>
    rw [ha] at processed
    exact processed.bind_error
  | ok _ =>
    rw [ha] at processed
    exact processed.bind_ok (.done _ _)

end Writer

/-! ## Streams -/

namespace Stream.Writer

variable (w : Stream.Writer τ) {ctx : Context} {t : Tick}

/-- What is answered to a call to open the channel that is cancelled beforehand. -/
def forestalledOpening : ChannelState → Except Failure Unit
  | .opened _ => .ok ()
  | .disconnected | .closed => .error .cancelled

/-- What is answered for a batch of rows when the call is cancelled beforehand. -/
def forestalledInsertion (batch : List Message) : ChannelState → Except Failure Unit
  | .disconnected | .closed => .error .notConnected
  | .opened _ =>
    match documents batch with
    | .error f => .error f
    | .ok [] => .ok ()
    | .ok (_ :: _) => .error .cancelled

/-- What the calls to a stream come to that are cancelled beforehand. An identifier may have been
drawn for a request that is not posted. -/
structure Forestalled (ctx : Context) (t : Tick) (l : Line τ) : Prop where
  connect : ∃ ids, Call.Idles (w.connect ctx) t l (forestalledOpening l.channel) { l with ids }
  write : ∀ batch, ∃ ids, Call.Idles (w.write ctx batch) t l
    (forestalledInsertion batch l.channel) { l with ids }

variable {w}

theorem idles_channel (l : Line τ) : Call.Idles channel t l (.ok l.channel) l :=
  .lift (.look _ l)

theorem idles_post (hc : ctx.isCancelled t = true) (operation : String) (request : Request)
    (l : Line τ) : Call.Idles (w.post ctx operation request) t l (.error .cancelled) l :=
  have hc' : (ctx.orTimeout w.requestTimeout).isCancelled t = true := hc
  .within hc' _ l

/-- A request is made up and signed, but not posted. -/
theorem idles_exchange (hc : ctx.isCancelled t = true) {l : Line τ} {token : Token}
    (hm : w.signer.mint l.now = .ok token) (operation : String) (ask : Ask)
    (shape : Json.Shape α) : Call.Idles (w.exchange ctx operation ask shape) t l
      (.error .cancelled) { l with ids := l.ids.draw.2 } := by
  have drawn : Call.Idles draw t l (.ok (l.ids.draw.1, l.now)) { l with ids := l.ids.draw.2 } :=
    .lift (.act _ l)
  exact drawn.bind_ok (.bind_ok (.result hm) (.bind_error (idles_post hc operation _ _)))

theorem idles_connect (hc : ctx.isCancelled t = true) {l : Line τ} {token : Token}
    (hm : w.signer.mint l.now = .ok token) :
    ∃ ids, Call.Idles (w.connect ctx) t l (forestalledOpening l.channel) { l with ids } := by
  have found := idles_channel (t := t) l
  have asked := idles_exchange hc hm "open_channel" (.openChannel .cloudStorage)
    OpenChannelResponse.record.shape
  obtain ⟨channel, ids, now, transport⟩ := l
  cases channel with
  | opened s => exact ⟨ids, .observed _ _ (.alone (found.bind_ok (.done _ _)))⟩
  | disconnected | closed =>
    exact ⟨_, .observed _ _ (.alone (found.bind_ok asked.bind_error))⟩

theorem idles_write (hc : ctx.isCancelled t = true) {l : Line τ} {token : Token}
    (hm : w.signer.mint l.now = .ok token) (batch : List Message) :
    ∃ ids, Call.Idles (w.write ctx batch) t l (forestalledInsertion batch l.channel)
      { l with ids } := by
  have found := idles_channel (t := t) l
  have asked (rows : Rows) := idles_exchange hc hm "insert_rows" (.insertRows rows)
    RegisterBlobResponse.record.shape
  obtain ⟨channel, ids, now, transport⟩ := l
  cases channel with
  | disconnected | closed =>
    exact ⟨ids, .observed _ _ (.alone (found.bind_ok (.done _ _)))⟩
  | opened s =>
    unfold forestalledInsertion
    cases hd : documents batch with
    | error f =>
      exact ⟨ids, .observed _ _ (.alone (found.bind_ok (.bind_error (.result hd))))⟩
    | ok rows =>
      cases rows with
      | nil =>
        exact ⟨ids, .observed _ _ (.alone (found.bind_ok (.bind_ok (.result hd) (.done _ _))))⟩
      | cons row rows =>
        have sent := asked (s.place (row :: rows))
        exact ⟨_, .observed _ _ (.alone (found.bind_ok (.bind_ok (.result hd) sent.bind_error)))⟩

theorem forestalled (hc : ctx.isCancelled t = true) {l : Line τ} {token : Token}
    (hm : w.signer.mint l.now = .ok token) : w.Forestalled ctx t l :=
  ⟨idles_connect hc hm, idles_write hc hm⟩

end Stream.Writer

/-! ## All calls -/

namespace Context

/-- Whatever it is called for, the context lets nothing outside be reached for. Streams are meant
whose signer has a token to give. -/
structure Forestalls (ctx : Context) (t : Tick) : Prop where
  connection : ∀ {δ : Type} (conn : Connection δ) (l : Link δ), conn.Forestalled ctx t l
  cache : ∀ {δ : Type} (cache : Cache δ) (l : Link δ), cache.Forestalled ctx t l
  processor : ∀ {δ : Type} (p : Processor δ) (batch : List Message) (d : Desk δ),
    p.Forestalled ctx t batch d
  writer : ∀ {δ : Type} (w : Writer δ) (batch : List Message) (d : Desk δ),
    w.Forestalled ctx t batch d
  stream : ∀ {τ : Type} (w : Stream.Writer τ) (l : Stream.Line τ) {token : Token},
    w.signer.mint l.now = .ok token → w.Forestalled ctx t l

/-- A call that is cancelled when it is made touches nothing outside. -/
theorem forestalls_of_isCancelled {ctx : Context} {t : Tick} (hc : ctx.isCancelled t = true) :
    ctx.Forestalls t where
  connection conn l := conn.forestalled hc l
  cache cache l := cache.forestalled hc l
  processor p batch d := p.forestalled hc batch d
  writer w batch d := w.forestalled hc batch d
  stream _ _ _ hm := Stream.Writer.forestalled hc hm

/-- A context with a deadline whose token has been cancelled long before. -/
theorem forestalls_of_cancelled_token :
    isCancelled ⟨some 3, some (.ofMillis 500)⟩ 2000 = true ∧
      Forestalls ⟨some 3, some (.ofMillis 500)⟩ 2000 :=
  have hc : isCancelled ⟨some 3, some (.ofMillis 500)⟩ 2000 = true := by decide
  ⟨hc, forestalls_of_isCancelled hc⟩

end Context

end KvBridge
