import KvBridge.Proofs.Connection.Release
import KvBridge.Proofs.Connection.Trial
import Mathlib.Data.Nat.Find

/-!
# Waiting for a backend to become ready

A call to connect that nobody cancels and that has no deadline of its own is a sequence of trials,
each of which begins where the one before it was over: the command to connect, then probes with a
pause after each but the last, and the command to close if the call fails. The client is up with the
first probe that succeeds, and if none of them does the call blames the last one
(`Connection.connect_waits`).

So such a call fails because of the backend, and says so, but for one case: if the driver does not
come to an end with the command to connect, the call fails like one whose deadline was over
(`Connection.connect_timeout_iff`).

* `Connection.probe`: the probes in their order;
* `Connection.gave_awaitReady_of_succeeds`, `Connection.gave_awaitReady_of_fails`: the wait.
-/

namespace KvBridge

variable {δ : Type}

namespace Connection

/-! ## Probes -/

section

variable (conn : Connection δ)

/-- The pause between two probes. -/
def pause : Tick := Tick.ofMillis conn.readiness.interval.timerMillis

/-- The probe of a number if the backend is probed again and again from a tick on, with a pause
after each probe. -/
def probe (t : Tick) (store : δ) : Nat → Trial δ Unit
  | 0 => conn.trial .ready t store
  | n + 1 =>
    let last := probe t store n
    conn.trial .ready (last.stop + conn.pause) last.store

/-- How long so many probes take together, without the pauses between them. -/
def probing (t : Tick) (store : δ) : Nat → Tick
  | 0 => 0
  | n + 1 => probing t store n + ((conn.probe t store n).stop - (conn.probe t store n).start)

end

variable {conn : Connection δ} {left k : Nat} {t u : Tick} {l l' : Link δ}

/-- After the first probe and a pause, probing goes on as if it began there. -/
theorem probe_succ (t : Tick) (store : δ) (n : Nat) :
    conn.probe t store (n + 1) =
      conn.probe ((conn.trial .ready t store).stop + conn.pause) (conn.trial .ready t store).store
        n := by
  induction n with
  | zero => rfl
  | succ n ih =>
    rw [probe, ih]
    rfl

theorem start_le_stop_probe (t : Tick) (store : δ) (n : Nat) :
    (conn.probe t store n).start ≤ (conn.probe t store n).stop := by
  cases n with
  | zero =>
    rw [probe, start_trial]
    exact le_stop_trial ..
  | succ n =>
    rw [probe, start_trial]
    exact le_stop_trial ..

/-- When a probe begins: after the probes before it and as many pauses. -/
theorem start_probe (t : Tick) (store : δ) (n : Nat) :
    (conn.probe t store n).start = t + conn.probing t store n + n * conn.pause := by
  induction n with
  | zero => rw [probe, start_trial, probing, Nat.zero_mul, Nat.add_zero]
  | succ n ih =>
    have hn := conn.start_le_stop_probe t store n
    rw [probe, start_trial, probing, Nat.succ_mul]
    unfold Tick at *
    omega

/-! ## The wait -/

/-- The wait of a call that nobody cancels, by how it goes on after its first probe. -/
theorem run_awaitReady (left : Nat) (t : Tick) (l : Link δ) :
    (conn.awaitReady {} conn.allowance (left + 1)).run.run none t l =
      ((conn.guarded conn.allowance .ready (.transport "ready" none)).run.run none t l).andThen
        fun r u l =>
          match r with
          | .ok () => ⟨some (.ok (), u), l, []⟩
          | .error .cancelled => ⟨some (.error .cancelled, u), l, []⟩
          | .error f =>
            (if left = 0 then
              ⟨some (.error (.connection conn.driver.name conn.readiness.probes (.failure f)), u),
                l, []⟩
            else (conn.awaitReady {} conn.allowance left).run.run none (u + conn.pause) l).after
              [.notice .warn "backend not ready"] := by
  rw [awaitReady, ExceptT.run_mk, Timed.bind_eq_bind, Timed.run_bind]
  congr 1
  funext r u l
  split
  · rfl
  · rfl
  · simp only [notice, Timed.tell, Timed.bind_eq_bind, Timed.bind, Timed.run]
    congr 1
    split
    · rfl
    · rw [Timed.run_bind, Context.run_sleep_of_calm, Timed.Outcome.andThen_some,
        Timed.Outcome.after_nil, pause]
      rfl

section

variable {x : Trial δ Unit}

/-- A probe that finds the backend ready ends the wait. -/
theorem gave_awaitReady_of_ready (hx : conn.trial .ready t l.store = x) (h : x.Succeeds) :
    ((conn.awaitReady {} conn.allowance (left + 1)).run.run none t l).Gave conn.driver [.ready]
      (.ok ()) x.stop { l with store := x.store } := by
  subst hx
  have hg := conn.gave_guarded .ready (.transport "ready" none) t l
  rw [told_of_ok h] at hg
  rw [run_awaitReady]
  exact hg.andThen (.done ..)

/-- A probe that does not is followed by others, if some are left. -/
theorem gave_awaitReady_of_not_ready (hx : conn.trial .ready t l.store = x) (h : ¬ x.Succeeds)
    {cs : List Command} {r : Except Failure Unit}
    (hn : (if left = 0 then
        ⟨some (.error (.connection conn.driver.name conn.readiness.probes
          (.failure (conn.fault (.transport "ready" none) x))), x.stop),
            { l with store := x.store }, []⟩
      else (conn.awaitReady {} conn.allowance left).run.run none (x.stop + conn.pause)
        { l with store := x.store }).Gave conn.driver cs r u l') :
    ((conn.awaitReady {} conn.allowance (left + 1)).run.run none t l).Gave conn.driver
      (.ready :: cs) r u l' := by
  subst hx
  have hg := conn.gave_guarded .ready (.transport "ready" none) t l
  have hne cause : Failure.transport "ready" none cause ≠ .cancelled := nofun
  have hf := conn.fault_ne_cancelled hne (conn.trial .ready t l.store)
  rw [told_of_not_ok fun _ => h] at hg
  rw [run_awaitReady]
  refine Timed.Outcome.Gave.andThen hg (b := r) ?_
  split
  · rename_i hf'
    cases hf'
  · rename_i hf'
    exact absurd (Except.error.inj hf') hf
  · rename_i f _ hf'
    cases hf'
    exact hn.after rfl

end

/-- The wait ends with the first probe that succeeds, if that is among those that are left. -/
theorem gave_awaitReady_of_succeeds (hk : k < left)
    (h : (conn.probe t l.store k).Succeeds) (hn : ∀ i < k, ¬ (conn.probe t l.store i).Succeeds) :
    let x := conn.probe t l.store k
    ((conn.awaitReady {} conn.allowance left).run.run none t l).Gave conn.driver
      (List.replicate (k + 1) .ready) (.ok ()) x.stop { l with store := x.store } := by
  induction k generalizing left t l with
  | zero =>
    obtain ⟨left, rfl⟩ := Nat.exists_eq_add_of_lt hk
    exact gave_awaitReady_of_ready rfl h
  | succ k ih =>
    obtain ⟨left, rfl⟩ := Nat.exists_eq_succ_of_ne_zero (Nat.ne_zero_of_lt hk)
    have hk' : k < left := Nat.lt_of_succ_lt_succ hk
    refine gave_awaitReady_of_not_ready rfl (hn 0 (Nat.succ_pos k)) ?_
    rw [if_neg (Nat.ne_zero_of_lt hk'), probe_succ]
    rw [probe_succ] at h
    refine ih hk' h fun i hi => ?_
    have hi' := hn (i + 1) (Nat.succ_lt_succ hi)
    rwa [probe_succ] at hi'

/-- If no probe succeeds the wait blames the last one. -/
theorem gave_awaitReady_of_fails {last : Nat} (hl : left = last + 1)
    (hn : ∀ i < left, ¬ (conn.probe t l.store i).Succeeds) :
    let x := conn.probe t l.store last
    ((conn.awaitReady {} conn.allowance left).run.run none t l).Gave conn.driver
      (List.replicate left .ready)
      (.error (.connection conn.driver.name conn.readiness.probes
        (.failure (conn.fault (.transport "ready" none) x)))) x.stop
      { l with store := x.store } := by
  induction last generalizing left t l with
  | zero =>
    subst hl
    exact gave_awaitReady_of_not_ready rfl (hn 0 Nat.zero_lt_one) (.done ..)
  | succ last ih =>
    subst hl
    refine gave_awaitReady_of_not_ready rfl (hn 0 (Nat.succ_pos _)) ?_
    rw [if_neg (Nat.succ_ne_zero last), probe_succ]
    refine ih rfl fun i hi => ?_
    have hi' := hn (i + 1) (Nat.succ_lt_succ hi)
    rwa [probe_succ] at hi'

/-! ## Connecting -/

section

variable {store store' : δ} {x : Trial δ Unit} {cs : List Command} {f : Failure}

/-- What follows when the driver has connected. -/
theorem gave_establish (hx : conn.trial .connect t l.store = x)
    (h : x.Succeeds) {r : Except Failure Unit}
    (hw : ((conn.awaitReady {} conn.allowance conn.readiness.probes).run.run none x.stop
      { l with store := x.store }).Gave conn.driver cs r u l') :
    ((conn.establish {}).run.run none t l).Gave conn.driver (.connect :: cs) r u l' := by
  subst hx
  have hg := conn.gave_guarded .connect (.connection conn.driver.name 1) t l
  rw [told_of_ok h] at hg
  rw [establish, ExceptT.run_bind, Timed.bind_eq_bind, Timed.run_bind]
  exact hg.andThen hw

/-- A driver that has not connected in time is not probed. -/
theorem gave_establish_of_not_connected
    (hx : conn.trial .connect t l.store = x) (h : ¬ x.Succeeds) :
    ((conn.establish {}).run.run none t l).Gave conn.driver [.connect]
      (.error (conn.fault (.connection conn.driver.name 1) x)) x.stop
      { l with store := x.store } := by
  subst hx
  have hg := conn.gave_guarded .connect (.connection conn.driver.name 1) t l
  rw [told_of_not_ok fun _ => h] at hg
  rw [establish, ExceptT.run_bind, Timed.bind_eq_bind, Timed.run_bind]
  exact hg.andThen (.done ..)

theorem gave_connect_of_ok
    (h : ((conn.establish {}).run.run none t ⟨.disconnected, store⟩).Gave conn.driver cs (.ok ()) u
      ⟨.disconnected, store'⟩) :
    ((conn.connect {}).run.run none t ⟨.disconnected, store⟩).Gave conn.driver cs (.ok ()) u
      ⟨.connected, store'⟩ := by
  rw [run_connect, Context.run_within_of_calm, ← List.append_nil cs]
  exact h.andThen ⟨rfl, fun _ => rfl, rfl⟩

/-- A client that was set up in vain is released, once. -/
theorem gave_connect_of_error
    (h : ((conn.establish {}).run.run none t ⟨.disconnected, store⟩).Gave conn.driver cs
      (.error f) u ⟨.disconnected, store'⟩) :
    let closing := conn.trial .close u store'
    ((conn.connect {}).run.run none t ⟨.disconnected, store⟩).Gave conn.driver (cs ++ [.close])
      (.error f) closing.stop ⟨.disconnected, closing.store⟩ := by
  have hg := conn.gave_guarded .close (.transport "close" none) u ⟨.disconnected, store'⟩
  rw [run_connect, Context.run_within_of_calm]
  refine h.andThen ?_
  rw [← List.append_nil [Command.close]]
  refine hg.andThen ?_
  split
  · exact .done ..
  · exact ⟨rfl, fun _ => rfl, rfl⟩

end

/-- How a call to connect goes that finds no client, and that nobody cancels and no deadline of the
caller's ends: by the driver's answer to the command to connect, and by the probes after it. -/
structure Waits (conn : Connection δ) (t : Tick) (store : δ) : Prop where
  refused : let setup := conn.trial .connect t store
    ∀ cause, setup.answer = some (.error cause) →
      let closing := conn.trial .close setup.stop setup.store
      ((conn.connect {}).run.run none t ⟨.disconnected, store⟩).Gave conn.driver
        [.connect, .close] (.error (.connection conn.driver.name 1 cause)) closing.stop
        ⟨.disconnected, closing.store⟩
  ready : let setup := conn.trial .connect t store
    let probe := conn.probe setup.stop setup.store
    setup.Succeeds → ∀ k < max conn.readiness.attempts 1,
      (probe k).Succeeds → (∀ i < k, ¬ (probe i).Succeeds) →
        ((conn.connect {}).run.run none t ⟨.disconnected, store⟩).Gave conn.driver
          (.connect :: List.replicate (k + 1) .ready) (.ok ()) (probe k).stop
          ⟨.connected, (probe k).store⟩
  exhausted : let setup := conn.trial .connect t store
    let probe := conn.probe setup.stop setup.store
    let n := max conn.readiness.attempts 1
    setup.Succeeds → (∀ i < n, ¬ (probe i).Succeeds) →
      let last := probe (n - 1)
      let closing := conn.trial .close last.stop last.store
      ((conn.connect {}).run.run none t ⟨.disconnected, store⟩).Gave conn.driver
        (.connect :: (List.replicate n .ready ++ [.close]))
        (.error (.connection conn.driver.name n
          (.failure (conn.fault (.transport "ready" none) last))))
        closing.stop ⟨.disconnected, closing.store⟩
  paced : let setup := conn.trial .connect t store
    ∀ k, (conn.probe setup.stop setup.store k).start =
      setup.stop + conn.probing setup.stop setup.store k +
        k * Tick.ofMillis conn.readiness.intervalMs

/-- The answer of a call to connect, its end and the commands that it gives follow from the driver's
answers alone. -/
theorem connect_waits (conn : Connection δ) (t : Tick) (store : δ) : conn.Waits t store where
  refused := by
    intro setup cause h closing
    have he := gave_establish_of_not_connected (l := ⟨.disconnected, store⟩) rfl
      (x := setup) (by rw [Trial.Succeeds, h]; nofun)
    rw [fault_of_error h] at he
    exact gave_connect_of_error he
  ready := by
    intro setup probe h k hk hp hn
    exact gave_connect_of_ok (gave_establish (l := ⟨.disconnected, store⟩) rfl h
      (gave_awaitReady_of_succeeds hk hp hn))
  exhausted := by
    intro setup probe n h hn last closing
    have hl : n = n - 1 + 1 := (Nat.sub_add_cancel (Nat.le_max_right ..)).symm
    exact gave_connect_of_error (gave_establish (l := ⟨.disconnected, store⟩) rfl h
      (gave_awaitReady_of_fails hl hn))
  paced := by
    intro setup k
    rw [start_probe, pause, ReadinessPolicy.interval, Duration.timerMillis_ofMillis]

/-- A driver that connects after 400 ms, to a backend that refuses the first probe after 100 ms,
does not answer the second, and is ready 50 ms after the third. -/
theorem connect_waits_for_late_backend :
    let script : Script := [("connect", [{ delay := some (.ofMillis 400) }]),
      ("ready", [{ delay := some (.ofMillis 100), fail := some (.text "no") }, { hang := true },
        { delay := some (.ofMillis 50) }])]
    let o := (rehearsed.connect {}).run.run none 0 ⟨.disconnected, script, 0, .empty⟩
    o.finished = some (.ok (), Tick.ofMillis 1750) ∧
      o.commands = [.connect, .ready, .ready, .ready] ∧ o.state.phase = .connected := by
  intro script o
  have h := (connect_waits rehearsed 0 ⟨script, 0, .empty⟩).ready (by decide +kernel) 2
    (by decide) (by decide +kernel) (by decide +kernel)
  have hstop : (rehearsed.probe (rehearsed.trial .connect 0 ⟨script, 0, .empty⟩).stop
      (rehearsed.trial .connect 0 ⟨script, 0, .empty⟩).store 2).stop = Tick.ofMillis 1750 := by
    decide +kernel
  rw [hstop] at h
  exact ⟨h.finished, h.commands quiet_rehearsed, congrArg Link.phase h.state⟩

/-- What a call to connect answers that finds no client, by the driver's answer to the command to
connect. -/
inductive Verdict (conn : Connection δ) :
    Option (Except Cause Unit) → Except Failure Unit → Prop
  | ready : Verdict conn (some (.ok ())) (.ok ())
  | exhausted (cause : Cause) : Verdict conn (some (.ok ()))
    (.error (.connection conn.driver.name conn.readiness.probes cause))
  | refused (cause : Cause) : Verdict conn (some (.error cause))
    (.error (.connection conn.driver.name 1 cause))
  | stalled : Verdict conn none (.error (.timeout conn.requestTimeout.wholeMillis))

/-- A call to connect that finds no client ends with its verdict. -/
theorem verdict_connect (t : Tick) (store : δ) :
    ∃ r u, ((conn.connect {}).run.run none t ⟨.disconnected, store⟩).finished = some (r, u) ∧
      conn.Verdict (conn.trial .connect t store).answer r := by
  obtain ⟨x, hx⟩ : ∃ x : Trial δ Unit, conn.trial .connect t store = x := ⟨_, rfl⟩
  rw [hx]
  by_cases hs : x.Succeeds
  · rw [show x.answer = some (.ok ()) from hs]
    by_cases hp : ∃ k, k < conn.readiness.probes ∧ (conn.probe x.stop x.store k).Succeeds
    · -- No more probes are made than up to the first one that succeeds.
      have hfirst := Nat.find_spec hp
      have hmin i (hi : i < Nat.find hp) : ¬ (conn.probe x.stop x.store i).Succeeds :=
        fun h => Nat.find_min hp hi ⟨Nat.lt_trans hi hfirst.1, h⟩
      have he := gave_establish (l := ⟨.disconnected, store⟩) hx hs
        (gave_awaitReady_of_succeeds hfirst.1 hfirst.2 hmin)
      exact ⟨_, _, (gave_connect_of_ok he).finished, .ready⟩
    · obtain ⟨last, hlast⟩ : ∃ last, conn.readiness.probes = last + 1 :=
        Nat.exists_eq_succ_of_ne_zero (Nat.ne_of_gt (Nat.le_max_right conn.readiness.attempts 1))
      have hn i (hi : i < conn.readiness.probes) : ¬ (conn.probe x.stop x.store i).Succeeds :=
        fun h => hp ⟨i, hi, h⟩
      have he := gave_establish (l := ⟨.disconnected, store⟩) hx hs
        (gave_awaitReady_of_fails hlast hn)
      exact ⟨_, _, (gave_connect_of_error he).finished, .exhausted _⟩
  · have he := gave_establish_of_not_connected (l := ⟨.disconnected, store⟩) hx hs
    refine ⟨_, _, (gave_connect_of_error he).finished, ?_⟩
    obtain ⟨start, _ | (cause | a), stop, store'⟩ := x
    · exact .stalled
    · exact .refused cause
    · exact absurd rfl hs

/-- A call to connect that nobody cancels and that has no deadline of its own fails like one whose
deadline was over exactly if the driver does not come to an end with the command to connect. All its
other failures name the backend, and count no more attempts than there are probes. -/
theorem connect_timeout_iff (conn : Connection δ) (t : Tick) (l : Link δ) :
    ∃ r u, ((conn.connect {}).run.run none t l).finished = some (r, u) ∧
      (r = .error (.timeout conn.requestTimeout.wholeMillis) ↔ l.phase = .disconnected ∧
        ¬ ∃ a w, ((conn.driver.call .connect).run none t l.store).finished = some (a, w) ∧
          w ≤ t + Tick.ofMillis conn.requestTimeout.timerMillis) ∧
      ∀ f, r = .error f → f ≠ .timeout conn.requestTimeout.wholeMillis →
        ∃ attempts cause, f = .connection conn.driver.name attempts cause ∧ 1 ≤ attempts ∧
          attempts ≤ max conn.readiness.attempts 1 := by
  obtain ⟨phase, store⟩ := l
  cases phase with
  | connected =>
    rw [run_connect_of_connected]
    exact ⟨.ok (), t, rfl, iff_of_false nofun nofun, nofun⟩
  | disconnected =>
    obtain ⟨r, u, h, hv⟩ := verdict_connect t store
    refine ⟨r, u, h, ?_⟩
    simp only [← answer_trial_eq_some_iff, true_and]
    generalize (conn.trial .connect t store).answer = a at hv
    have hpos : 1 ≤ max conn.readiness.attempts 1 := Nat.le_max_right ..
    cases hv with
    | ready => exact ⟨iff_of_false nofun fun h => h ⟨_, rfl⟩, nofun⟩
    | exhausted cause =>
      refine ⟨iff_of_false nofun fun h => h ⟨_, rfl⟩, ?_⟩
      rintro _ ⟨⟩ -
      exact ⟨_, cause, rfl, hpos, Nat.le_refl _⟩
    | refused cause =>
      refine ⟨iff_of_false nofun fun h => h ⟨_, rfl⟩, ?_⟩
      rintro _ ⟨⟩ -
      exact ⟨1, cause, rfl, Nat.le_refl 1, hpos⟩
    | stalled =>
      refine ⟨iff_of_true rfl nofun, ?_⟩
      rintro _ ⟨⟩ h
      exact absurd rfl h

/-- A backend that answers none of the three probes is to blame, although each of them ran into a
deadline. -/
theorem connect_timeout_iff_of_silent_backend :
    let l : Link (Scripted (Clocked Memory)) :=
      ⟨.disconnected, [("ready", List.replicate 3 { hang := true })], 0, .empty⟩
    ∃ u attempts cause,
      ((rehearsed.connect {}).run.run none 0 l).finished =
        some (.error (.connection rehearsed.driver.name attempts cause), u) ∧
      1 ≤ attempts ∧ attempts ≤ 3 := by
  intro l
  obtain ⟨r, u, h, hi, hf⟩ := connect_timeout_iff rehearsed 0 l
  have hr : (((rehearsed.connect {}).run.run none 0 l).finished.any fun r => !r.1.isOk) = true := by
    decide +kernel
  rw [h] at hr
  obtain f | a := r
  · obtain ⟨attempts, cause, rfl, hpos, hle⟩ := hf f rfl fun he =>
      (hi.1 (congrArg _ he)).2 ⟨.ok (), 0, rfl, Nat.zero_le _⟩
    exact ⟨u, attempts, cause, h, hpos, hle⟩
  · cases hr

/-- A driver that does not come to an end with the command to connect: the call fails with the
deadline of its connection, which its caller has not set. -/
theorem connect_times_out_of_stalled_driver :
    ¬ ∀ f, ((rehearsed.connect {}).run.run none 0
        ⟨.disconnected, [("connect", [{ hang := true }])], 0, .empty⟩).finished.map Prod.fst =
          some (.error f) →
      ∃ attempts cause, f = .connection rehearsed.driver.name attempts cause ∧ 1 ≤ attempts ∧
        attempts ≤ max rehearsed.readiness.attempts 1 := by
  intro h
  generalize ho : ((rehearsed.connect {}).run.run none 0
    ⟨.disconnected, [("connect", [{ hang := true }])], 0, .empty⟩).finished.map Prod.fst = o at h
  have hl : o.map outcomeLabel = some "timeout" := by
    rw [← ho]
    decide +kernel
  obtain _ | f | _ := o
  · cases hl
  · obtain ⟨_, _, rfl, -⟩ := h f rfl
    simp [outcomeLabel] at hl
  · simp [outcomeLabel] at hl

end Connection

end KvBridge
