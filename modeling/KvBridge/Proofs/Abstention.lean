import KvBridge.Proofs.Cancellation
import KvBridge.Proofs.Connection.Exclusion
import KvBridge.Proofs.Timed.Horizon

/-!
# Cancelled calls among other calls

A call that was cancelled beforehand may have to wait for the exclusive part like any other, and the
state may change meanwhile. But it abstains (`Timed.Abstains`): whatever the others do, it tells of
nothing outside, changes nothing but what belongs to its own side, and waits for nothing except the
exclusive part. `Timed.since` is a program as it goes on from a tick on, without the parts whose
guards are cancelled by then; run alone from there it does the same (`Timed.run_since`).

* `Crowd.aloof_of_reaches`: what a client that abstains comes to in any crowd that can be reached;
* `Context.abstains_of_isCancelled`: all calls within a cancelled context abstain.
-/

namespace KvBridge

variable {ε σ τ α β δ ι : Type} {ans : ι → Type}

namespace Timed

/-! ## Programs from a tick on -/

/-- The program as it goes on from a tick on: parts whose guards are cancelled by then do not
start. -/
def since (t : Tick) {α : Type} : Timed ε σ α → Timed ε σ α
  | .done a => .done a
  | .step act next => .step act fun b => (next b).since t
  | .emit e next => .emit e (next.since t)
  | .wait ms next => .wait ms (next.since t)
  | .never => .never
  | .guarded g body next =>
    if g.isCancelled t then (next (.error .cancelled)).since t
    else .guarded g (body.since t) fun r => (next r).since t
  | .exclusive body next => .exclusive (body.since t) fun b => (next b).since t

variable {t u : Tick}

theorem since_bind (x : Timed ε σ α) (f : α → Timed ε σ β) :
    (x.bind f).since t = (x.since t).bind fun a => (f a).since t := by
  induction x with
  | done a => rfl
  | step act next ih => simp only [bind, since, ih]
  | emit e next ih => simp only [bind, since, ih]
  | wait ms next ih => simp only [bind, since, ih]
  | never => rfl
  | guarded g body next _ ih =>
    simp only [bind, since, ih]
    split <;> rfl
  | exclusive body next _ ih => simp only [bind, since, ih]

theorem since_zoom (get : σ → τ) (put : τ → σ → σ) (x : Timed ε τ α) :
    (x.zoom get put).since t = (x.since t).zoom get put := by
  induction x with
  | done a => rfl
  | step act next ih => simp only [zoom, since, ih]
  | emit e next ih => simp only [zoom, since, ih]
  | wait ms next ih => simp only [zoom, since, ih]
  | never => rfl
  | guarded g body next ihb ihn =>
    simp only [zoom, since, ihb, ihn]
    split <;> rfl
  | exclusive body next ihb ihn => simp only [zoom, since, ihb, ihn]

/-- What follows a run matters only from where it starts. -/
theorem run_bind_congr (x : Timed ε σ α) {f f' : α → Timed ε σ β} {horizon : Option Tick}
    (hu : isSeen horizon u = true) (s : σ)
    (hf : ∀ a v s, u ≤ v → isSeen horizon v = true →
      (f a).run horizon v s = (f' a).run horizon v s) :
    (x.bind f).run horizon u s = (x.bind f').run horizon u s := by
  rw [run_bind, run_bind]
  cases hx : x.run horizon u s with
  | mk finished s' es =>
    cases finished with
    | none => rfl
    | some r =>
      obtain ⟨a, v⟩ := r
      have seen := run_seen x hu (congrArg Outcome.finished hx)
      simp only [Outcome.andThen, hf a v s' seen.1 seen.2]

/-- A part under a guard does what its body does within some nearer horizon. -/
theorem run_under_congr {g : Guard} {body body' : Timed ε σ β} {horizon : Option Tick}
    (hu : isSeen horizon u = true) (s : σ)
    (hb : ∀ nearby, isSeen nearby u = true → body.run nearby u s = body'.run nearby u s) :
    (under g body).run horizon u s = (under g body').run horizon u s := by
  cases hg : g.isCancelled u with
  | true => rw [run_under_of_isCancelled hg, run_under_of_isCancelled hg]
  | false =>
    simp only [under, run, hg]
    cases ha : g.alarm u with
    | none => rw [hb horizon hu]
    | some alarm =>
      have hn : isSeen (some (nearer horizon (alarm.1.lastTick alarm.2))) u = true := by
        rw [isSeen_nearer, hu, decide_eq_true (Guard.alarm_spec hg ha).1, Bool.and_self]
      simp only [hb _ hn]

/-- A program does the same from a tick on when what was cancelled by then does not start. -/
theorem run_since (x : Timed ε σ α) {horizon : Option Tick} (h : t ≤ u)
    (hu : isSeen horizon u = true) (s : σ) : (x.since t).run horizon u s = x.run horizon u s := by
  induction x generalizing horizon u s with
  | done a => rfl
  | step act next ih => simp only [since, run, ih _ h hu]
  | emit e next ih => simp only [since, run, ih h hu]
  | wait ms next ih =>
    simp only [since, run]
    split
    · rename_i hw
      exact ih (Nat.le_trans h (Nat.le_add_right ..)) hw s
    · rfl
  | never => rfl
  | guarded g body next ihb ihn =>
    rw [since]
    split
    · rename_i hg
      rw [ihn _ h hu, run, if_pos (Guard.isCancelled_of_le h hg)]
    · calc
        (guarded g (body.since t) fun r => (next r).since t).run horizon u s =
            (guarded g body fun r => (next r).since t).run horizon u s := by
          show ((under g (body.since t)).bind _).run horizon u s =
            ((under g body).bind _).run horizon u s
          rw [run_bind, run_bind, run_under_congr hu s fun nearby hn => ihb h hn s]
        _ = (guarded g body next).run horizon u s :=
          run_bind_congr (under g body) hu s fun r v s hv seen => ihn r (Nat.le_trans h hv) seen s
  | exclusive body next ihb ihn =>
    calc
      (exclusive (body.since t) fun b => (next b).since t).run horizon u s =
          (exclusive body fun b => (next b).since t).run horizon u s := by
        simp only [run, ihb h hu]
      _ = (exclusive body next).run horizon u s :=
        run_bind_congr (alone body) hu s fun b v s hv seen => ihn b (Nat.le_trans h hv) seen s

/-! ## Programs that touch nothing outside -/

/-- Whatever the state is at each step, the program changes it only as `rel` says, tells of nothing
outside, waits for nothing but the exclusive part, and ends with an answer that has a property. -/
def Refrains (rel : σ → σ → Prop) {α : Type} : Program σ α → (α → Prop) → Prop
  | .done a, post => post a
  | .step act next, post => ∀ s, rel s (act s).2 ∧ (next (act s).1).Refrains rel post
  | .emit e next, post => e.isOutward = false ∧ next.Refrains rel post
  | .exclusive body next, post => body.Refrains rel fun b => (next b).Refrains rel post
  | .wait .., _ | .never, _ | .guarded .., _ => False

namespace Refrains

variable {rel : σ → σ → Prop} {x x' : Program σ α} {post post' : α → Prop} {s s' : σ}
  {k : Access} {es : List Event}

theorem mono (h : x.Refrains rel post) (hp : ∀ a, post a → post' a) : x.Refrains rel post' := by
  induction x with
  | done a => exact hp a h
  | step act next ih => exact fun s => ⟨(h s).1, ih _ (h s).2 hp⟩
  | emit e next ih => exact ⟨h.1, ih h.2 hp⟩
  | exclusive body next ihb ihn => exact ihb h fun b hb => ihn b hb hp
  | wait | never | guarded => exact h

theorem weaken {rel' : σ → σ → Prop} (h : x.Refrains rel post)
    (hr : ∀ s s', rel s s' → rel' s s') : x.Refrains rel' post := by
  induction x with
  | done a => exact h
  | step act next ih => exact fun s => ⟨hr _ _ (h s).1, ih _ (h s).2⟩
  | emit e next ih => exact ⟨h.1, ih h.2⟩
  | exclusive body next ihb ihn =>
    have hb : body.Refrains rel _ := h
    exact (ihb hb).mono fun b hb => ihn b hb
  | wait | never | guarded => exact h

theorem bind {f : α → Program σ β} {post : β → Prop}
    (h : x.Refrains rel fun a => (f a).Refrains rel post) : (x.bind f).Refrains rel post := by
  induction x with
  | done a => exact h
  | step act next ih => exact fun s => ⟨(h s).1, ih _ (h s).2⟩
  | emit e next ih => exact ⟨h.1, ih h.2⟩
  | exclusive body next _ ihn =>
    have hb : body.Refrains rel _ := h
    exact hb.mono fun b hb => ihn b hb
  | wait | never | guarded => exact h

theorem zoom {get : σ → τ} {put : τ → σ → σ} {rel : τ → τ → Prop} {x : Program τ α}
    (h : x.Refrains rel post) :
    (x.zoom get put).Refrains (fun s s' => ∃ r, rel (get s) r ∧ s' = put r s) post := by
  induction x with
  | done a => exact h
  | step act next ih => exact fun s => ⟨⟨_, (h (get s)).1, rfl⟩, ih _ (h (get s)).2⟩
  | emit e next ih => exact ⟨h.1, ih h.2⟩
  | exclusive body next ihb ihn =>
    have hb : body.Refrains rel _ := h
    exact (ihb hb).mono fun b hb => ihn b hb
  | wait | never | guarded => exact h

/-- What one move does. -/
theorem moves (refl : ∀ s, rel s s) (move : x.Moves s k es x' s') (h : x.Refrains rel post) :
    rel s s' ∧ (∀ e ∈ es, e.isOutward = false) ∧ x'.Refrains rel post := by
  induction move with
  | step act next s => exact ⟨(h s).1, nofun, (h s).2⟩
  | announce e act next s => exact ⟨(h.2 s).1, by simpa using h.1, (h.2 s).2⟩
  | tell e _ s => exact ⟨refl s, by simpa using h.1, h.2⟩
  | enter x next s => exact ⟨refl s, nofun, h⟩
  | inside next _ ih => exact ih h
  | leave b next s => exact ⟨refl s, nofun, h⟩
  | wake | under | ended | cut => exact h.elim

/-- A program that has not come to its end can go on, or enter the exclusive part. -/
theorem exists_moves (h : x.Refrains rel post) (s : σ) :
    (∃ a, x = .done a) ∨ (∃ es x' s', x.Moves s .free es x' s') ∨
      x.isExclusive = true ∧ x.Moves s .enter [] x s := by
  cases x with
  | done a => exact .inl ⟨a, rfl⟩
  | step act next => exact .inr (.inl ⟨_, _, _, .step act next s⟩)
  | emit e next =>
    cases hs : next.isStep with
    | false => exact .inr (.inl ⟨_, _, _, .tell e hs s⟩)
    | true =>
      cases next with
      | step act next => exact .inr (.inl ⟨_, _, _, .announce e act next s⟩)
      | _ => cases hs
  | exclusive body next => exact .inr (.inr ⟨rfl, .enter body next s⟩)
  | wait | never | guarded => exact h.elim

/-- While no other client is in the exclusive part, a client that has not come to its end can
move. -/
theorem exists_moves_of_free (h : x.Refrains rel post) (s : σ) {i : ι} {holder : Option ι}
    (free : ∀ j, holder = some j → j = i) :
    (∃ a, x = .done a) ∨
      ∃ k es x' s' holder', x.Moves s k es x' s' ∧ k.Allows i holder holder' := by
  obtain done | ⟨_, _, _, move⟩ | ⟨hx, enter⟩ := h.exists_moves s
  · exact .inl done
  · exact .inr ⟨_, _, _, _, _, move, .free holder⟩
  refine .inr ?_
  cases holder with
  | none => exact ⟨_, _, _, _, _, enter, .enter⟩
  | some j =>
    obtain rfl := free j rfl
    cases x with
    | exclusive body next =>
      have hb : body.Refrains rel _ := h
      obtain ⟨b, rfl⟩ | ⟨_, _, _, move⟩ | ⟨-, move⟩ := hb.exists_moves s
      · exact ⟨_, _, _, _, _, .leave b next s, .leave⟩
      · exact ⟨_, _, _, _, _, .inside next move, .inside⟩
      · exact ⟨_, _, _, _, _, .inside next move, .inside⟩
    | guarded => exact h.elim
    | _ => cases hx

end Refrains

/-- From a tick on the program refrains. -/
abbrev Abstains (t : Tick) (rel : σ → σ → Prop) (x : Program σ α) (post : α → Prop) : Prop :=
  (x.since t).Refrains rel post

end Timed

/-! ## Clients that refrain -/

/-- What a client that refrains has come to in a crowd. -/
structure Crowd.Aloof (c : Crowd Event σ ans) (i : ι) (rel : σ → σ → Prop) (post : ans i → Prop) :
    Prop where
  /-- It has told of nothing outside. -/
  told : ∀ e, (i, e) ∈ c.log → e.isOutward = false
  /-- Whatever it does next changes the state only so. -/
  kept : ∀ {k es x s}, (c.programs i).Moves c.state k es x s → rel c.state s
  ended : ∀ a, c.programs i = .done a → post a
  /-- It waits for nothing but the exclusive part. -/
  prompt : (∀ j, c.holder = some j → j = i) → (∃ a, c.programs i = .done a) ∨
    ∃ k es x s holder, (c.programs i).Moves c.state k es x s ∧ k.Allows i c.holder holder

/-- The client refrains from now on, and has told of nothing outside so far. -/
structure Crowd.Reserved (c : Crowd Event σ ans) (i : ι) (rel : σ → σ → Prop)
    (post : ans i → Prop) : Prop where
  refrains : (c.programs i).Refrains rel post
  told : ∀ e, (i, e) ∈ c.log → e.isOutward = false

namespace Crowd.Reserved

variable {drift : σ → σ → Prop} {c c' : Crowd Event σ ans} {i : ι} {rel : σ → σ → Prop}
  {post : ans i → Prop}

theorem step (refl : ∀ s, rel s s) (h : c.Reserved i rel post) (move : Step drift c c') :
    c'.Reserved i rel post := by
  obtain ⟨refrains, told⟩ := h
  cases move with
  | drift _ programs _ log => exact ⟨programs ▸ refrains, log ▸ told⟩
  | @client j _ es move others _ log =>
    have new (e : Event) (he : (i, e) ∈ c'.log) : (i, e) ∈ c.log ∨ i = j ∧ e ∈ es := by
      rw [log] at he
      simpa [eq_comm, and_comm] using he
    by_cases hj : i = j
    · subst hj
      obtain ⟨-, quiet, refrains⟩ := refrains.moves refl move
      exact ⟨refrains, fun e he => (new e he).elim (told e) fun h => quiet e h.2⟩
    · refine ⟨others i hj ▸ refrains, fun e he => (new e he).elim (told e) fun h => ?_⟩
      exact absurd h.1 hj

theorem aloof (refl : ∀ s, rel s s) (h : c.Reserved i rel post) : c.Aloof i rel post where
  told := h.told
  kept move := (h.refrains.moves refl move).1
  ended a ha := by
    have refrains := h.refrains
    rw [ha] at refrains
    exact refrains
  prompt := h.refrains.exists_moves_of_free _

end Crowd.Reserved

/-- However the clients are scheduled, whatever the others do, and however the state changes of
itself, a client that refrains stays aloof. -/
theorem Crowd.aloof_of_reaches {drift : σ → σ → Prop} {c c' : Crowd Event σ ans} {i : ι}
    {rel : σ → σ → Prop} {post : ans i → Prop} (refl : ∀ s, rel s s)
    (start : (c.programs i).Refrains rel post) (log : ∀ e, (i, e) ∉ c.log)
    (reaches : Reaches drift c c') : c'.Aloof i rel post :=
  have reserved := reaches.invariant (fun c => c.Reserved i rel post)
    ⟨start, fun e he => absurd he (log e)⟩ fun h step => h.step refl step
  reserved.aloof refl

/-! ## Putting programs together -/

namespace Timed.Abstains

variable {t : Tick} {rel : σ → σ → Prop} {x : Program σ α} {post : α → Prop} {f : α → Program σ β}

theorem done {a : α} (h : post a) : (Timed.done a : Program σ α).Abstains t rel post := h

theorem act {f : σ → α × σ} (h : ∀ s, rel s (f s).2 ∧ post (f s).1) :
    (Timed.act f : Program σ α).Abstains t rel post := h

theorem look (refl : ∀ s, rel s s) {f : σ → α} (h : ∀ s, post (f s)) :
    (Timed.look f : Program σ α).Abstains t rel post := fun s => ⟨refl s, h s⟩

theorem change {f : σ → σ} (h : ∀ s, rel s (f s)) {post : Unit → Prop} (hp : post ()) :
    (Timed.change f : Program σ Unit).Abstains t rel post := fun s => ⟨h s, hp⟩

theorem notice (level : Level) (text : String) {post : Unit → Prop} (hp : post ()) :
    (KvBridge.notice level text : Program σ Unit).Abstains t rel post := ⟨rfl, hp⟩

theorem weaken {rel' : σ → σ → Prop} (h : x.Abstains t rel post)
    (hr : ∀ s s', rel s s' → rel' s s') : x.Abstains t rel' post := Refrains.weaken h hr

theorem mono {post' : α → Prop} (h : x.Abstains t rel post) (hp : ∀ a, post a → post' a) :
    x.Abstains t rel post' := Refrains.mono h hp

theorem bind {post : β → Prop} (h : x.Abstains t rel fun a => (f a).Abstains t rel post) :
    (x.bind f).Abstains t rel post := by
  rw [Abstains, since_bind]
  exact Refrains.bind h

theorem alone (h : x.Abstains t rel post) : (Timed.alone x).Abstains t rel post := h

/-- A program on a part of a state, by what it keeps to on that part. -/
theorem zoom {get : σ → τ} {put : τ → σ → σ} {rel' : τ → τ → Prop} {x : Program τ α}
    (h : x.Abstains t rel' post) (hrel : ∀ s r, rel' (get s) r → rel s (put r s)) :
    (x.zoom get put).Abstains t rel post := by
  rw [Abstains, since_zoom]
  refine (Refrains.zoom h).weaken fun s s' hs => ?_
  obtain ⟨r, hr, rfl⟩ := hs
  exact hrel s r hr

/-- Work within a context that is cancelled is not started. -/
theorem within {ctx : Context} (hc : ctx.isCancelled t = true)
    (body : Program σ (Except Failure α)) {post : Except Failure α → Prop}
    (hp : post (.error .cancelled)) : (ctx.within body).Abstains t rel post := by
  have hg : ctx.guard.isCancelled t = true := hc
  rw [Abstains, Context.within, since, if_pos hg]
  exact hp

end Timed.Abstains

namespace Call

variable {t : Tick} {rel : σ → σ → Prop} {x : Call σ α} {f : α → Call σ β}
  {post : Except Failure β → Prop}

/-- From a tick on the call refrains. -/
abbrev Abstains (t : Tick) (rel : σ → σ → Prop) (x : Call σ α) (post : Except Failure α → Prop) :
    Prop :=
  Timed.Abstains t rel (ExceptT.run x) post

theorem Abstains.bind {mid : Except Failure α → Prop} (hx : Abstains t rel x mid)
    (ok : ∀ a, mid (.ok a) → Abstains t rel (f a) post)
    (error : ∀ e, mid (.error e) → post (.error e)) : Abstains t rel (x >>= f) post :=
  Timed.Abstains.bind (f := ExceptT.bindCont f) (hx.mono fun
    | .ok a, ha => ok a ha
    | .error e, he => error e he)

/-- What follows a call that fails is not done. -/
theorem Abstains.bind_error (hx : Abstains t rel x fun r => ∃ e, r = .error e)
    (hp : ∀ e, post (.error e)) : Abstains t rel (x >>= f) post := by
  refine hx.bind (fun a ha => ?_) fun e _ => hp e
  obtain ⟨e, he⟩ := ha
  cases he

theorem Abstains.bind_cancelled (hx : Abstains t rel x (· = .error .cancelled))
    (hp : post (.error .cancelled)) : Abstains t rel (x >>= f) post :=
  hx.bind nofun fun e he => by
    cases he
    exact hp

theorem Abstains.observed (component operation : String) {post : Except Failure α → Prop}
    (hx : Abstains t rel x post) : Abstains t rel (observed component operation x) post :=
  Timed.Abstains.bind (hx.mono fun _ h => ⟨rfl, h⟩)

end Call

/-! ## Connections -/

namespace Connection

variable (conn : Connection δ) {ctx : Context} {t : Tick}

theorem abstains_request (hc : ctx.isCancelled t = true) (c : Command) (failed : Cause → Failure) :
    Call.Abstains t Eq (conn.request ctx c failed) (· = .error .cancelled) :=
  have hc' : (ctx.orTimeout conn.requestTimeout).isCancelled t = true := hc
  .within hc' _ rfl

theorem abstains_isConnected {rel : Link δ → Link δ → Prop} (refl : ∀ l, rel l l)
    {post : Bool → Prop} (h : ∀ b, post b) : Timed.Abstains t rel isConnected post :=
  .look refl fun l => h (l.phase == .connected)

theorem abstains_connect (hc : ctx.isCancelled t = true) :
    Call.Abstains t Eq (conn.connect ctx)
      fun r => r = .ok () ∨ r = .error .cancelled := by
  refine Timed.Abstains.alone (.bind (abstains_isConnected Eq.refl fun isUp => ?_))
  cases isUp with
  | true => exact .done (.inl rfl)
  | false =>
    -- The client is released within the same context, so that does nothing either.
    refine .bind (.within hc _ (.bind ((conn.abstains_request hc _ _).mono ?_)))
    rintro _ rfl
    exact .bind (.notice _ _ (.done (.inr rfl)))

theorem abstains_acquire (hc : ctx.isCancelled t = true) :
    Call.Abstains t Eq (conn.acquire ctx) fun r => r = .ok () ∨ r = .error .cancelled := by
  refine Timed.Abstains.bind (abstains_isConnected Eq.refl fun isUp => ?_)
  cases isUp with
  | true => exact .done (.inl rfl)
  | false => exact conn.abstains_connect hc

/-- To close a connection is at most to count it as down. -/
theorem abstains_close (hc : ctx.isCancelled t = true) :
    Call.Abstains t (fun l l' => l' = l ∨ l' = ⟨.disconnected, l.store⟩) (conn.close ctx)
      fun r => r = .ok () ∨ r = .error .cancelled := by
  refine Timed.Abstains.alone (.bind (abstains_isConnected (fun _ => .inl rfl) fun isUp => ?_))
  cases isUp with
  | true =>
    have released := conn.abstains_request hc .close (.transport "close" none)
    exact .bind (.change (fun _ => .inr rfl) (.bind (.notice _ _
      ((released.weaken fun _ _ h => .inl h.symm).mono fun _ => .inr))))
  | false => exact .done (.inl rfl)

theorem abstains_perform (hc : ctx.isCancelled t = true) (c : Command)
    (failed : Cause → Failure) :
    Call.Abstains t Eq (conn.perform ctx c failed) (· = .error .cancelled) :=
  (conn.abstains_acquire hc).bind (fun _ _ => conn.abstains_request hc c failed) fun
    | _, .inr rfl => rfl

/-- What the calls to a connection keep to that are cancelled beforehand. -/
structure Abstains (ctx : Context) (t : Tick) : Prop where
  connect : Call.Abstains t Eq (conn.connect ctx) fun r => r = .ok () ∨ r = .error .cancelled
  acquire : Call.Abstains t Eq (conn.acquire ctx) fun r => r = .ok () ∨ r = .error .cancelled
  close : Call.Abstains t (fun l l' => l' = l ∨ l' = ⟨.disconnected, l.store⟩) (conn.close ctx)
    fun r => r = .ok () ∨ r = .error .cancelled

theorem abstains (hc : ctx.isCancelled t = true) : conn.Abstains ctx t :=
  ⟨conn.abstains_connect hc, conn.abstains_acquire hc, conn.abstains_close hc⟩

/-- The clients of a new connection, each of which makes its call when its time has come. -/
def punctualCallers (visits : ι → Visit) (store : δ) : Callers δ ι :=
  { conn.callers visits store with
    programs := fun i => (conn.visit (visits i)).run.since (visits i).start }

/-- Among the clients of a connection one whose call is cancelled beforehand stays aloof. -/
theorem aloof_of_isCancelled {visits : ι → Visit} {i : ι} (hi : (visits i).isCancelled = true)
    {store : δ} {drift : Link δ → Link δ → Prop} {c : Callers δ ι}
    (reaches : Crowd.Reaches drift (conn.punctualCallers visits store) c) :
    c.Aloof i (fun l l' => l' = l ∨ l' = ⟨.disconnected, l.store⟩)
      fun r => r = .ok () ∨ r = .error .cancelled := by
  have abstains := conn.abstains hi
  have start : Call.Abstains (visits i).start (fun l l' => l' = l ∨ l' = ⟨.disconnected, l.store⟩)
      (conn.visit (visits i)) fun r => r = .ok () ∨ r = .error .cancelled := by
    unfold visit
    split
    · exact abstains.connect.weaken fun _ _ h => .inl h.symm
    · exact abstains.close
    · exact abstains.acquire.weaken fun _ _ h => .inl h.symm
  exact Crowd.aloof_of_reaches (fun _ => .inl rfl) start (fun _ => List.not_mem_nil) reaches

end Connection

/-! ## Caches -/

namespace Cache

variable (cache : Cache δ) {ctx : Context} {t : Tick}

/-- What the calls to a cache keep to that are cancelled beforehand. -/
structure Abstains (ctx : Context) (t : Tick) : Prop where
  get : ∀ key, Call.Abstains t Eq (cache.get ctx key) (· = .error .cancelled)
  set : ∀ key value ttl, Call.Abstains t Eq (cache.set ctx key value ttl) (· = .error .cancelled)
  add : ∀ key value ttl, Call.Abstains t Eq (cache.add ctx key value ttl) (· = .error .cancelled)
  delete : ∀ key, Call.Abstains t Eq (cache.delete ctx key) (· = .error .cancelled)

theorem abstains (hc : ctx.isCancelled t = true) : cache.Abstains ctx t where
  get key := .observed _ _ ((cache.conn.abstains_perform hc _ _).bind_cancelled rfl)
  set key value ttl := by
    refine .observed _ _ ?_
    unfold store
    split
    · exact cache.conn.abstains_perform hc (.put key value) _
    · exact cache.conn.abstains_perform hc (.putWithTtl key value _) _
  add key value ttl := by
    refine .observed _ _ ?_
    split
    · exact (cache.conn.abstains_perform hc _ _).bind_cancelled rfl
    · exact (cache.conn.abstains_perform hc _ _).bind_cancelled rfl
  delete key := .observed _ _ (cache.conn.abstains_perform hc _ _)

end Cache

/-! ## Batches -/

namespace Processor

variable (p : Processor δ) {ctx : Context} {t : Tick}

/-- What a batch keeps to that is cancelled beforehand. Resolvers may draw identifiers. Only an
empty batch can be answered well. -/
def Abstains (ctx : Context) (t : Tick) (batch : List Message) : Prop :=
  Call.Abstains t (fun d d' => d.link = d'.link) (p.process ctx batch)
    fun r => batch.isEmpty = true ∨ ∃ f, r = .error f

theorem abstains_onLink_perform (hc : ctx.isCancelled t = true) (c : Command)
    (failed : Cause → Failure) :
    Call.Abstains t (fun d d' : Desk δ => d.link = d'.link) (onLink (p.conn.perform ctx c failed))
      (· = .error .cancelled) :=
  Timed.Abstains.zoom (p.conn.abstains_perform hc c failed) fun _ _ h => h

theorem abstains_resolveKeys (batch : List Message) :
    Call.Abstains t (fun d d' : Desk δ => d.link = d'.link) (resolveKeys batch) fun _ => True :=
  Timed.Abstains.act fun _ => ⟨rfl, trivial⟩

theorem abstains_resolveContents (batch : List Message) :
    Call.Abstains t (fun d d' : Desk δ => d.link = d'.link) (resolveContents batch)
      fun _ => True := by
  refine Timed.Abstains.act fun d => ⟨?_, trivial⟩
  split <;> rfl

theorem abstains (hc : ctx.isCancelled t = true) (batch : List Message) :
    p.Abstains ctx t batch := by
  unfold Abstains process
  by_cases hb : batch.isEmpty = true
  · rw [if_pos hb]
    exact .done (.inl hb)
  rw [if_neg hb]
  refine .observed _ _ ((abstains_resolveKeys batch).bind (fun keys _ => ?_)
    fun f _ => .inr ⟨f, rfl⟩)
  cases p.operation with
  | get => exact (p.abstains_onLink_perform hc _ _).bind_cancelled (.inr ⟨_, rfl⟩)
  | delete => exact (p.abstains_onLink_perform hc _ _).bind_cancelled (.inr ⟨_, rfl⟩)
  | put =>
    exact (abstains_resolveContents batch).bind
      (fun _ _ => (p.abstains_onLink_perform hc _ _).bind_cancelled (.inr ⟨_, rfl⟩))
      fun f _ => .inr ⟨f, rfl⟩

end Processor

/-! ## Batch writers -/

namespace Writer

variable (w : Writer δ) {ctx : Context} {t : Tick}

/-- What storing a batch keeps to that is cancelled beforehand. -/
def Abstains (ctx : Context) (t : Tick) (batch : List Message) : Prop :=
  Call.Abstains t (fun d d' => d.link = d'.link) (w.write ctx batch)
    fun r => batch.isEmpty = true ∨ ∃ f, r = .error f

theorem abstains (hc : ctx.isCancelled t = true) (batch : List Message) :
    w.Abstains ctx t batch := by
  have processed : Call.Abstains t _ (w.processor.process ctx batch) _ :=
    w.processor.abstains hc batch
  refine processed.bind (fun _ ha => .done ?_) fun f _ => .inr ⟨f, rfl⟩
  obtain hb | ⟨f, hf⟩ := ha
  · exact .inl hb
  · cases hf

end Writer

/-! ## Streams -/

namespace Stream.Writer

variable (w : Stream.Writer τ) {ctx : Context} {t : Tick}

/-- The channel stands where it stood, and nothing has gone to the service. -/
def Untold (l l' : Line τ) : Prop := l.channel = l'.channel ∧ l.transport = l'.transport

theorem Untold.refl (l : Line τ) : Untold l l := ⟨rfl, rfl⟩

/-- What the calls to a stream keep to that are cancelled beforehand. Identifiers may be drawn. Rows
are never taken. -/
structure Abstains (ctx : Context) (t : Tick) : Prop where
  connect : Call.Abstains t Untold (w.connect ctx) fun _ => True
  write : ∀ batch, Call.Abstains t Untold (w.write ctx batch)
    fun r => r = .ok () → documents batch = .ok []

variable {w}

theorem abstains_channel : Call.Abstains t (Untold (τ := τ)) channel fun _ => True :=
  Timed.Abstains.bind (.look Untold.refl fun _ => trivial)

/-- A request is made up and signed if that can be done, but not posted. -/
theorem abstains_exchange (hc : ctx.isCancelled t = true) (operation : String) (ask : Ask)
    (shape : Json.Shape α) :
    Call.Abstains t Untold (w.exchange ctx operation ask shape) fun r => ∃ f, r = .error f := by
  have drawn : Call.Abstains t (Untold (τ := τ)) draw fun _ => True :=
    Timed.Abstains.bind (.act fun _ => ⟨⟨rfl, rfl⟩, trivial⟩)
  have posted (request : Request) :
      Call.Abstains t Untold (w.post ctx operation request) (· = .error .cancelled) :=
    have hc' : (ctx.orTimeout w.requestTimeout).isCancelled t = true := hc
    .within hc' _ rfl
  have signed (now : Reading) :
      Call.Abstains t (Untold (τ := τ)) (ExceptT.mk (.done (w.signer.mint now))) fun _ => True :=
    .done trivial
  exact drawn.bind (fun _ _ => (signed _).bind
    (fun _ _ => (posted _).bind_cancelled ⟨_, rfl⟩) fun f _ => ⟨f, rfl⟩) fun f _ => ⟨f, rfl⟩

theorem abstains_connect (hc : ctx.isCancelled t = true) :
    Call.Abstains t Untold (w.connect ctx) fun _ => True := by
  refine .observed _ _ (Timed.Abstains.alone (abstains_channel.bind (fun channel _ => ?_)
    fun _ _ => trivial))
  cases channel with
  | opened s => exact .done trivial
  | disconnected | closed =>
    exact (abstains_exchange hc _ _ _).bind_error fun _ => trivial

theorem abstains_write (hc : ctx.isCancelled t = true) (batch : List Message) :
    Call.Abstains t Untold (w.write ctx batch)
      fun r => r = .ok () → documents batch = .ok [] := by
  refine .observed _ _ (Timed.Abstains.alone (abstains_channel.bind (fun channel _ => ?_)
    fun _ _ => nofun))
  cases channel with
  | disconnected | closed => exact .done nofun
  | opened s =>
    have read : Call.Abstains t (Untold (τ := τ)) (ExceptT.mk (.done (documents batch)))
        (· = documents batch) := .done rfl
    refine read.bind (fun rows hr => ?_) fun _ _ => nofun
    cases rows with
    | nil => exact .done fun _ => hr.symm
    | cons row rows => exact (abstains_exchange hc _ _ _).bind_error fun _ => nofun

theorem abstains (hc : ctx.isCancelled t = true) : w.Abstains ctx t :=
  ⟨abstains_connect hc, abstains_write hc⟩

end Stream.Writer

/-! ## All calls -/

namespace Context

/-- Whatever it is called for, and whatever others do meanwhile, the context lets nothing outside be
reached for. -/
structure Abstains (ctx : Context) (t : Tick) : Prop where
  connection : ∀ {δ : Type} (conn : Connection δ), conn.Abstains ctx t
  cache : ∀ {δ : Type} (cache : Cache δ), cache.Abstains ctx t
  processor : ∀ {δ : Type} (p : Processor δ) (batch : List Message), p.Abstains ctx t batch
  writer : ∀ {δ : Type} (w : Writer δ) (batch : List Message), w.Abstains ctx t batch
  stream : ∀ {τ : Type} (w : Stream.Writer τ), w.Abstains ctx t

/-- A call that is cancelled when it is made abstains, among any others. -/
theorem abstains_of_isCancelled {ctx : Context} {t : Tick} (hc : ctx.isCancelled t = true) :
    ctx.Abstains t where
  connection conn := conn.abstains hc
  cache cache := cache.abstains hc
  processor p batch := p.abstains hc batch
  writer w batch := w.abstains hc batch
  stream _ := Stream.Writer.abstains hc

end Context

end KvBridge
