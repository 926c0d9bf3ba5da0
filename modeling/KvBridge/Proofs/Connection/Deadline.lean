import KvBridge.Proofs.Connection.Release
import KvBridge.Proofs.Timed.Horizon

/-!
# How long a call to connect takes

The deadline of a caller bounds each of the two parts of a call to connect: setting the client up,
and releasing a client that was set up in vain. It does not bound them together, for it starts anew
with the second. So a call with a deadline of `d` answers within twice `d`, and within `d` exactly
if nothing is left to release, if setting up took no time at all, if the call is cancelled by then,
or if the driver has closed by then (`Connection.connect_timely`).

* `Context.endsAt_within`: when work with a deadline ends by some time.
-/

namespace KvBridge

variable {ε σ α β δ : Type}

/-! ## Work with a deadline -/

namespace Context

variable {ctx : Context} {d : Duration} {t u T : Tick}

/-- When work with a deadline ends: with its deadline at the latest, and before that exactly if it
is cancelled or comes to its end by itself. -/
structure EndsAt (ctx : Context) (d : Duration) (body : Timed ε σ (Except Failure α)) (t : Tick)
    (s : σ) (u : Tick) : Prop where
  le : t ≤ u
  by_deadline : u ≤ t + Tick.ofMillis d.timerMillis
  by_iff : ∀ T, t ≤ T → T ≤ t + Tick.ofMillis d.timerMillis →
    (u ≤ T ↔ T = t + Tick.ofMillis d.timerMillis ∨ ctx.isCancelled T = true ∨
      ∃ r w, (body.run none t s).finished = some (r, w) ∧ w ≤ T)

theorem endsAt_within (ctx : Context) (hd : ctx.timeout = some d)
    (body : Timed ε σ (Except Failure α)) (t : Tick) (s : σ) {r : Except Failure α}
    (h : ((ctx.within body).run none t s).finished = some (r, u)) :
    ctx.EndsAt d body t s u := by
  have hg : ctx.guard.timeoutMs = some d.timerMillis := by rw [guard, hd]; rfl
  have hle := (Timed.run_seen (ctx.within body) (Timed.isSeen_none t) h).1
  simp only [within, Timed.run] at h
  split at h
  · rename_i hc
    cases h
    exact ⟨hle, Nat.le_add_right _ _, fun T hT _ =>
      iff_of_true hT (.inr (.inl (isCancelled_of_le hT hc)))⟩
  rename_i hc
  split at h
  · rename_i ha
    exact absurd ha (Guard.alarm_ne_none hg t)
  rename_i why cut ha
  obtain ⟨hl, -, hk, hcut⟩ := Guard.alarm_spec (Bool.eq_false_iff.2 hc) ha
  obtain ⟨hcd, hexp⟩ := Guard.alarm_le hg ha
  have late (T : Tick) (hT : ctx.isCancelled T = true) : why.lastTick cut < T := by
    refine Nat.lt_of_not_le fun h => ?_
    rw [show ctx.isCancelled T = false from hk T h] at hT
    cases hT
  have hn : Timed.isSeen (some (why.lastTick cut)) t = true := decide_eq_true hl
  rw [show Timed.nearer none (why.lastTick cut) = why.lastTick cut from rfl] at h
  obtain ⟨⟨b, w⟩, hb, same⟩ | ⟨hb, beyond⟩ :=
    Timed.run_outlasts body (fun u _ => Timed.isSeen_none u) hn s
  · rw [hb] at h
    cases h
    -- The work has come to its end before the alarm.
    have hw : u ≤ why.lastTick cut := of_decide_eq_true (Timed.run_seen body hn hb).2
    have hw' : u ≤ cut := Nat.le_trans hw (why.lastTick_le cut)
    refine ⟨hle, Nat.le_trans hw' hcd, fun T _ hT => ⟨fun h => .inr (.inr ⟨b, u, ?_, h⟩), ?_⟩⟩
    · rw [same, hb]
    · rintro (rfl | hT' | ⟨b', w', hb', hT'⟩)
      · exact Nat.le_trans hw' hcd
      · exact Nat.le_trans hw (Nat.le_of_lt (late T hT'))
      · rw [same, hb] at hb'
        cases hb'
        exact hT'
  · rw [hb] at h
    cases h
    -- The alarm has come, and the work by itself ends only after it if at all.
    refine ⟨hle, hcd, fun T _ hT => ⟨fun h => ?_, ?_⟩⟩
    · cases why with
      | cancelled => exact .inr (.inl (isCancelled_of_le h (hcut.2 rfl)))
      | expired => exact .inl (Nat.le_antisymm hT (hexp rfl ▸ h))
    · rintro (rfl | hT' | ⟨b, w, hw, hT'⟩)
      · exact hcd
      · exact Interruption.le_of_lastTick_lt (late T hT')
      · have hw' := beyond b w hw
        rw [Timed.isSeen_some, decide_eq_false_iff_not, Nat.not_le] at hw'
        exact Nat.le_trans (Interruption.le_of_lastTick_lt hw') hT'

end Context

/-! ## Connecting -/

/-- The driver, told to close at a time, has done so by another. -/
def Driver.ClosesBy (driver : Driver δ) (store : δ) (t T : Tick) : Prop :=
  ∃ r w, ((driver.call .close).run none t store).finished = some (r, w) ∧ w ≤ T

namespace Connection

variable (conn : Connection δ)

/-- When a release that begins at a time ends. -/
theorem endsAt_release (cancelledAt : Option Tick) (d : Duration) {t u : Tick} {l : Link δ}
    {r : Except Failure Unit}
    (h : ((conn.release ⟨cancelledAt, some d⟩).run.run none t l).finished = some (r, u)) :
    t ≤ u ∧ u ≤ t + Tick.ofMillis d.timerMillis ∧
      ∀ T, t ≤ T → T ≤ t + Tick.ofMillis d.timerMillis →
        (u ≤ T ↔ T = t + Tick.ofMillis d.timerMillis ∨
          Context.isCancelled ⟨cancelledAt, some d⟩ T = true ∨
            conn.driver.ClosesBy l.store t T) := by
  obtain ⟨hle, hd, hi⟩ := Context.endsAt_within ⟨cancelledAt, some d⟩ rfl _ t l h
  refine ⟨hle, hd, fun T ht hT => (hi T ht hT).trans (or_congr_right (or_congr_right ?_))⟩
  rw [Timed.run_bind, run_invoke, Driver.ClosesBy]
  generalize (conn.driver.call .close).run none t l.store = o
  obtain ⟨_ | ⟨r, w⟩, store, es⟩ := o
  · exact iff_of_false (fun ⟨_, _, h, _⟩ => by cases h) (fun ⟨_, _, h, _⟩ => by cases h)
  · constructor
    · rintro ⟨_, _, ⟨⟩, hw⟩
      exact ⟨r, w, rfl, hw⟩
    · rintro ⟨_, _, ⟨⟩, hw⟩
      exact ⟨_, w, rfl, hw⟩

/-- How long a call to connect takes that is made at `t` and finds no client. Setting the client up
ends at `v` with `r` and leaves `l`, and the call answers `r` at `u`. -/
structure Timely (cancelledAt : Option Tick) (d : Duration) (store : δ) (t : Tick)
    (r : Except Failure Unit) (v u : Tick) (l : Link δ) : Prop where
  setUp : ∃ es, (Context.within ⟨cancelledAt, some d⟩
    (conn.establish ⟨cancelledAt, some d⟩).run).run none t ⟨.disconnected, store⟩ =
      ⟨some (r, v), l, es⟩
  answer : ((conn.connect ⟨cancelledAt, some d⟩).run.run none t
    ⟨.disconnected, store⟩).finished = some (r, u)
  setUp_by_deadline : t ≤ v ∧ v ≤ t + Tick.ofMillis d.timerMillis
  release_by_deadline : v ≤ u ∧ u ≤ v + Tick.ofMillis d.timerMillis
  inTime : u ≤ t + Tick.ofMillis d.timerMillis ↔
    r = .ok () ∨ v = t ∨
      Context.isCancelled ⟨cancelledAt, some d⟩ (t + Tick.ofMillis d.timerMillis) = true ∨
      conn.driver.ClosesBy l.store v (t + Tick.ofMillis d.timerMillis)

/-- A call to connect within a deadline answers at once if the client is up. Else it answers within
twice the deadline, and within the deadline exactly if there is nothing to release, or setting the
client up took no time, or the call is cancelled by then, or the driver has closed by then. -/
theorem connect_timely (cancelledAt : Option Tick) (d : Duration) (store : δ) (t : Tick) :
    (conn.connect ⟨cancelledAt, some d⟩).run.run none t ⟨.connected, store⟩ =
        ⟨some (.ok (), t), ⟨.connected, store⟩, []⟩ ∧
      ∃ r v u l, conn.Timely cancelledAt d store t r v u l := by
  refine ⟨?_, ?_⟩
  · rw [connect, ExceptT.run, Timed.run_alone]
    rfl
  obtain ⟨r, v, hset⟩ := Context.ends_within ⟨cancelledAt, some d⟩
    (ends_establish conn ⟨cancelledAt, some d⟩) t ⟨.disconnected, store⟩
  obtain ⟨hv, hvd, -⟩ := Context.endsAt_within ⟨cancelledAt, some d⟩ rfl _ t _ hset
  have hrun := run_connect conn ⟨cancelledAt, some d⟩ t store
  generalize ho : (Context.within ⟨cancelledAt, some d⟩
    (conn.establish ⟨cancelledAt, some d⟩).run).run none t ⟨.disconnected, store⟩ = o at *
  obtain ⟨finished, l, es⟩ := o
  cases hset
  rw [Timed.Outcome.andThen_some] at hrun
  cases r with
  | ok a =>
    refine ⟨.ok (), v, v, l, ⟨es, ho⟩, congrArg _ hrun, ⟨hv, hvd⟩,
      ⟨Nat.le_refl v, Nat.le_add_right v _⟩, iff_of_true hvd (.inl rfl)⟩
  | error f =>
    obtain ⟨r', u, hrel⟩ := ends_release conn ⟨cancelledAt, some d⟩ v l
    obtain ⟨hu, hud, hi⟩ := conn.endsAt_release cancelledAt d hrel
    refine ⟨.error f, v, u, l, ⟨es, ho⟩, ?_, ⟨hv, hvd⟩, ⟨hu, hud⟩, ?_⟩
    · rw [hrun]
      generalize (conn.release ⟨cancelledAt, some d⟩).run.run none v l = o at *
      obtain ⟨finished, l', es'⟩ := o
      cases hrel
      cases r' <;> rfl
    · rw [hi _ hvd (Nat.add_le_add_right hv _)]
      refine ⟨fun h => .inr (h.imp_left fun h => ?_), fun h => ?_⟩
      · exact (Nat.add_right_cancel h).symm
      · rcases h with h | rfl | h
        · cases h
        · exact .inl rfl
        · exact .inr h

/-- A backend that is never ready and does not close: a call to connect with a deadline of two
seconds gives up setting the client up after 200 ms, and answers two seconds later. -/
theorem connect_overruns_deadline :
    let script : Script := [("ready", List.replicate 3 { fail := some (.text "no") }),
      ("close", [{ hang := true }])]
    ((rehearsed.connect { timeout := some (.ofMillis 2000) }).run.run none 0
        ⟨.disconnected, script, 0, .empty⟩).finished.map Prod.snd = some (Tick.ofMillis 2200) ∧
      0 + Tick.ofMillis (Duration.ofMillis 2000).timerMillis < Tick.ofMillis 2200 := by
  decide +kernel

end Connection

end KvBridge
