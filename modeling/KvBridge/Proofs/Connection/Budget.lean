import KvBridge.Proofs.Connection.Deadline
import KvBridge.Proofs.Timed.Crowd
import KvBridge.Proofs.Timed.Span

/-!
# A call to connect comes to an end

The driver may take as long as it likes with each command, or for ever. The connection does not wait
for it: each command has a deadline, and there are only so many of them. So the time of a call to
connect without a deadline of its own is bounded by the settings of the connection alone, and the
exclusive part of the call, which keeps other calls waiting, is over with it
(`Connection.connect_comes_to_an_end`).

* `Connection.endsWithin_awaitReady`: the probes and the pauses between them;
* `Connection.endsWithin_establish`, `Connection.endsWithin_release`: the parts of the call.
-/

namespace KvBridge

variable {ε σ α β δ : Type}

/-- Work with a deadline ends by the deadline, whatever it is. -/
theorem Context.endsWithin_of_timeout {ctx : Context} {d : Duration} (hd : ctx.timeout = some d)
    (body : Timed ε σ (Except Failure α)) : (ctx.within body).EndsWithin d.timerMillis := by
  intro t s
  obtain ⟨r, u, h⟩ := Context.ends_within_of_timeout hd body t s
  exact ⟨r, u, h, (ctx.endsAt_within hd body t s h).by_deadline⟩

/-- Work within a context takes no longer than by itself. -/
theorem Context.endsWithin_within (ctx : Context) {body : Timed ε σ (Except Failure α)} {n : Nat}
    (h : body.EndsWithin n) : (ctx.within body).EndsWithin n := by
  have hw := (h.under ctx.guard).bind fun r => .done (ctx.settle r) 0
  exact hw

/-- A pause is not prolonged. -/
theorem Context.endsWithin_sleep (ctx : Context) (d : Duration) :
    (ctx.sleep d : Timed ε σ _).EndsWithin d.timerMillis := by
  have h := endsWithin_within (ε := ε) (σ := σ) { ctx with timeout := none }
    (.wait d.timerMillis (.done (.ok ()) 0))
  rwa [Nat.add_zero] at h

namespace Connection

variable {conn : Connection δ} {ctx probe : Context} {r p : Nat}

/-- One command. -/
theorem endsWithin_guarded (hr : conn.requestTimeout.timerMillis = r)
    (hd : ctx.timeout = some conn.requestTimeout) (c : Command) (failed : Cause → Failure) :
    (conn.guarded ctx c failed).run.EndsWithin r := hr ▸ Context.endsWithin_of_timeout hd _

/-- The wait for a backend takes its probes, and the pauses between them. -/
theorem endsWithin_awaitReady (hr : conn.requestTimeout.timerMillis = r)
    (hp : conn.readiness.interval.timerMillis = p) (hd : probe.timeout = some conn.requestTimeout)
    (left : Nat) : (conn.awaitReady ctx probe left).run.EndsWithin (left * r + (left - 1) * p) := by
  -- On the probes that are left: each but the last is followed by a pause.
  induction left with
  | zero => exact .done _ _
  | succ left ih =>
    have hg := endsWithin_guarded hr hd .ready (.transport "ready" none)
    have hs : (ctx.sleep conn.readiness.interval : Program (Link δ) _).EndsWithin p :=
      hp ▸ ctx.endsWithin_sleep _
    rw [awaitReady, ExceptT.run_mk, Nat.add_sub_cancel]
    have hsum : (left + 1) * r + left * p = r + (left * r + left * p) := by
      rw [Nat.succ_mul]
      omega
    rw [hsum]
    refine hg.bind fun x => ?_
    split
    · exact .done _ _
    · exact .done _ _
    refine .emit _ ?_
    show Timed.EndsWithin (if left = 0 then _ else _) _
    split
    · exact .done _ _
    rename_i hl
    have hrest : left * r + left * p = p + (left * r + (left - 1) * p) := by
      obtain ⟨n, rfl⟩ := Nat.exists_eq_succ_of_ne_zero hl
      rw [Nat.succ_sub_one, Nat.succ_mul n p]
      omega
    rw [hrest]
    refine hs.bind fun x => ?_
    split
    · exact .done _ _
    · exact ih

/-- Setting a client up takes the command to connect, and the wait for the backend. -/
theorem endsWithin_establish (hr : conn.requestTimeout.timerMillis = r)
    (hp : conn.readiness.interval.timerMillis = p) (ctx : Context) :
    (conn.establish ctx).run.EndsWithin
      (r + (conn.readiness.probes * r + (conn.readiness.probes - 1) * p)) := by
  have hd : ({ ctx with timeout := some conn.requestTimeout } : Context).timeout =
    some conn.requestTimeout := rfl
  have hg := endsWithin_guarded hr hd .connect (.connection conn.driver.name 1)
  rw [establish, ExceptT.run_bind]
  refine hg.bind fun x => ?_
  cases x with
  | error f => exact .done _ _
  | ok a => exact endsWithin_awaitReady hr hp rfl _

/-- Releasing a client takes the command to close. -/
theorem endsWithin_release (hr : conn.requestTimeout.timerMillis = r) (cancelledAt : Option Tick) :
    (conn.release ⟨cancelledAt, none⟩).run.EndsWithin r :=
  endsWithin_guarded hr rfl .close _

theorem endsWithin_close (hr : conn.requestTimeout.timerMillis = r) (cancelledAt : Option Tick) :
    (conn.close ⟨cancelledAt, none⟩).run.EndsWithin r := by
  rintro t ⟨phase, store⟩
  rw [run_close]
  cases phase with
  | disconnected => exact ⟨_, t, rfl, Nat.le_add_right t _⟩
  | connected => exact endsWithin_release hr cancelledAt t ⟨.disconnected, store⟩

/-- A call to connect ends when the client is set up, or when it is released again. -/
theorem connect_endsBy (hr : conn.requestTimeout.timerMillis = r)
    (hp : conn.readiness.interval.timerMillis = p) (cancelledAt : Option Tick) (t : Tick)
    (l : Link δ) :
    ∃ v u a, ((conn.connect ⟨cancelledAt, none⟩).run.run none t l).finished = some (a, u) ∧
      v ≤ t + Tick.ofMillis
        (r + (conn.readiness.probes * r + (conn.readiness.probes - 1) * p)) ∧
      u ≤ v + Tick.ofMillis r ∧ (a = .ok () → u = v) := by
  obtain ⟨phase, store⟩ := l
  cases phase with
  | connected =>
    rw [run_connect_of_connected]
    exact ⟨t, t, _, rfl, Nat.le_add_right t _, Nat.le_add_right t _, fun _ => rfl⟩
  | disconnected =>
    obtain ⟨a, v, hset, hv⟩ := Context.endsWithin_within ⟨cancelledAt, none⟩
      (endsWithin_establish hr hp ⟨cancelledAt, none⟩) t ⟨.disconnected, store⟩
    rw [run_connect]
    generalize (Context.within ⟨cancelledAt, none⟩ (conn.establish ⟨cancelledAt, none⟩).run).run
      none t ⟨.disconnected, store⟩ = o at *
    obtain ⟨finished, l, es⟩ := o
    cases hset
    rw [Timed.Outcome.andThen_some]
    cases a with
    | ok a => exact ⟨v, v, _, rfl, hv, Nat.le_add_right v _, fun _ => rfl⟩
    | error f =>
      obtain ⟨b, u, hrel, hu⟩ := endsWithin_release hr cancelledAt v l
      refine ⟨v, u, .error f, ?_, hv, hu, nofun⟩
      generalize (conn.release ⟨cancelledAt, none⟩).run.run none v l = o at *
      obtain ⟨finished, l', es'⟩ := o
      cases hrel
      cases b <;> rfl

/-- A call to connect that has no deadline of its own comes to an end, cancelled or not, whatever
the driver does: within a request timeout for the command to connect, one for each probe and one for
the release of a client that was set up in vain, and the pauses between the probes. In whatever way
it goes, nobody is in the exclusive part when it has come to its end, and a call to close that
follows takes a request timeout at most. -/
theorem connect_comes_to_an_end (driver : Driver δ) (config : ClientConfig)
    (cancelledAt : Option Tick) (t : Tick) (l : Link δ) :
    let conn := ofConfig driver config
    let r := config.requestTimeoutMs
    let p := config.readiness.intervalMs
    let n := max config.readiness.attempts 1
    let call := (conn.connect ⟨cancelledAt, none⟩).run
    (∃ a u l' es, call.run none t l = ⟨some (a, u), l', es⟩ ∧
      Timed.Goes () call none l es (.done a) none l' ∧
      u ≤ t + Tick.ofMillis ((n + 2) * r + (n - 1) * p) ∧
      (a = .ok () → u ≤ t + Tick.ofMillis ((n + 1) * r + (n - 1) * p))) ∧
    (∀ es a holder l', Timed.Goes () call none l es (.done a) holder l' →
      holder = none ∧ ∀ cancelledAt' t', ∃ a' u',
        ((conn.close ⟨cancelledAt', none⟩).run.run none t' l').finished = some (a', u') ∧
          u' ≤ t' + Tick.ofMillis r) := by
  intro conn r p n call
  have hr : conn.requestTimeout.timerMillis = r := Duration.timerMillis_ofMillis _
  have hp : conn.readiness.interval.timerMillis = p := Duration.timerMillis_ofMillis _
  have hn : conn.readiness.probes = n := rfl
  refine ⟨?_, fun es a holder l' goes =>
    ⟨goes.free_of_done, fun cancelledAt' t' => endsWithin_close hr cancelledAt' t' l'⟩⟩
  obtain ⟨v, u, a, h, hv, hu, ha⟩ := connect_endsBy hr hp cancelledAt t l
  rw [hn] at hv
  have hsum : (n + 1) * r + (n - 1) * p = r + (n * r + (n - 1) * p) := by
    rw [Nat.succ_mul]
    omega
  have hsum' : (n + 2) * r + (n - 1) * p = r + (n * r + (n - 1) * p) + r := by
    rw [Nat.succ_mul, Nat.succ_mul]
    omega
  rw [hsum, hsum']
  generalize r + (n * r + (n - 1) * p) = setUp at *
  obtain ⟨y, holder, goes, rests⟩ := Timed.goes_run () call (Timed.isSeen_none t) l
  change (call.run none t l).finished = some (a, u) at h
  generalize call.run none t l = o at *
  obtain ⟨finished, l', es⟩ := o
  cases h
  obtain ⟨rfl, rfl⟩ := rests
  refine ⟨a, u, l', es, rfl, goes, ?_, fun ho => ha ho ▸ hv⟩
  unfold Tick Tick.ofMillis at *
  omega

end Connection

end KvBridge
