import KvBridge.Proofs.Connection.Spell
import KvBridge.Proofs.Timed.Horizon

/-!
# How one command goes

A call that nobody cancels and that has no deadline of its own gives its commands one after the
other, each for as long as the connection allows. How one of them goes is a *trial*: a run of the
driver that is looked at up to the deadline of the command. It tells all that the call learns of the
command, and all that becomes of the driver (`Connection.gave_guarded`).

* `Timed.Outcome.Gave`: the commands of a run, its answer and its state;
* `Connection.trial`, `Connection.told`: one command, and what its caller is told;
* `Connection.answer_trial_eq_some_iff`: the driver answers in time exactly if it would do so by
  itself.
-/

namespace KvBridge

variable {σ α β δ ρ : Type}

/-! ## What a run has given -/

/-- The run ended with an answer at a tick and in a state, and gave these commands to a driver, if
the driver gives none of its own. -/
structure Timed.Outcome.Gave (o : Timed.Outcome Event σ α) (d : Driver δ) (cs : List Command)
    (a : α) (u : Tick) (s : σ) : Prop where
  finished : o.finished = some (a, u)
  commands : d.Quiet → o.commands = cs
  state : o.state = s

namespace Timed.Outcome.Gave

variable {d : Driver δ} {o : Timed.Outcome Event σ α} {cs cs' : List Command} {a : α} {b : β}
  {u v : Tick} {s s' : σ}

theorem done (d : Driver δ) (a : α) (u : Tick) (s : σ) : Gave ⟨some (a, u), s, []⟩ d [] a u s :=
  ⟨rfl, fun _ => rfl, rfl⟩

/-- Events before a run that are no commands. -/
theorem after {es : List Event} (hes : es.filterMap Event.command? = []) (h : o.Gave d cs a u s) :
    (o.after es).Gave d cs a u s where
  finished := h.finished
  commands hq := by
    rw [commands_after, hes]
    exact h.commands hq
  state := h.state

/-- One run after the other. -/
theorem andThen {f : α → Tick → σ → Timed.Outcome Event σ β} (h : o.Gave d cs a u s)
    (hf : (f a u s).Gave d cs' b v s') : (o.andThen f).Gave d (cs ++ cs') b v s' := by
  obtain ⟨finished, state, es⟩ := o
  obtain ⟨hfin, hcmd, hst⟩ := h
  cases hfin
  cases hst
  refine ⟨hf.finished, fun hq => ?_, hf.state⟩
  rw [andThen_some, commands_after, hf.commands hq]
  exact congrArg (· ++ cs') (hcmd hq)

end Timed.Outcome.Gave

/-! ## Trials -/

/-- How a command goes that is waited for up to a deadline: when it was given, the driver's answer
if it came in time, when the wait was over, and the store by then. -/
structure Trial (δ ρ : Type) where
  start : Tick
  answer : Option (Except Cause ρ)
  stop : Tick
  store : δ

/-- The backend says in time that it is ready. -/
def Trial.Succeeds (x : Trial δ Unit) : Prop := x.answer = some (.ok ())

instance (x : Trial δ Unit) : Decidable x.Succeeds :=
  match h : x.answer with
  | some (.ok ()) => .isTrue h
  | some (.error cause) => .isFalse fun hs => by rw [Trial.Succeeds, h] at hs; cases hs
  | none => .isFalse fun hs => by rw [Trial.Succeeds, h] at hs; cases hs

/-- How a command goes that is given to a driver at a tick, and waited for up to a deadline. -/
def Driver.attempt (d : Driver δ) (c : Command) (deadline t : Tick) (store : δ) :
    Trial δ c.Reply :=
  let o := (d.call c).run (some deadline) t store
  ⟨t, o.finished.map Prod.fst, (o.finished.map Prod.snd).getD deadline, o.state⟩

/-- The wait for a command is not over before it begins. -/
theorem Driver.le_stop_attempt (d : Driver δ) (c : Command) {deadline t : Tick} (ht : t ≤ deadline)
    (store : δ) : t ≤ (d.attempt c deadline t store).stop := by
  have hseen : Timed.isSeen (some deadline) t = true := decide_eq_true ht
  rw [attempt]
  cases h : ((d.call c).run (some deadline) t store).finished with
  | none => exact ht
  | some r => exact (Timed.run_seen _ hseen h).1

namespace Connection

variable (conn : Connection δ)

/-- How a command goes that is given at a tick, and waited for as long as the connection allows. -/
def trial (c : Command) (t : Tick) (store : δ) : Trial δ c.Reply :=
  conn.driver.attempt c (t + Tick.ofMillis conn.requestTimeout.timerMillis) t store

/-- What a caller is told of a trial that did not succeed: why the driver refused, or that its time
was up. -/
def fault (failed : Cause → Failure) (x : Trial δ ρ) : Failure :=
  match x.answer with
  | some (.error cause) => failed cause
  | _ => .timeout conn.requestTimeout.wholeMillis

/-- What a caller is told of a trial. -/
def told (failed : Cause → Failure) (x : Trial δ ρ) : Except Failure ρ :=
  match x.answer with
  | some (.ok a) => .ok a
  | _ => .error (conn.fault failed x)

/-- The context of the commands of a call that nobody cancels. -/
abbrev allowance : Context := { timeout := some conn.requestTimeout }

variable {conn} {failed : Cause → Failure}

theorem told_of_ok {x : Trial δ ρ} {a : ρ} (h : x.answer = some (.ok a)) :
    conn.told failed x = .ok a := by
  rw [told, h]

theorem told_of_not_ok {x : Trial δ ρ} (h : ∀ a, x.answer ≠ some (.ok a)) :
    conn.told failed x = .error (conn.fault failed x) := by
  obtain ⟨start, answer, stop, store⟩ := x
  match answer, h with
  | none, _ => rfl
  | some (.error cause), _ => rfl
  | some (.ok a), h => exact absurd rfl (h a)

theorem fault_of_error {x : Trial δ ρ} {cause : Cause} (h : x.answer = some (.error cause)) :
    conn.fault failed x = failed cause := by
  rw [fault, h]

/-- Nobody is told that the call was cancelled. -/
theorem fault_ne_cancelled (hf : ∀ cause, failed cause ≠ .cancelled) (x : Trial δ ρ) :
    conn.fault failed x ≠ .cancelled := by
  rw [fault]
  split
  · exact hf _
  · nofun

/-- The driver answers in time exactly if it does so, by itself, before the deadline. -/
theorem answer_trial_eq_some_iff (c : Command) (t : Tick) (store : δ) (r : Except Cause c.Reply) :
    (conn.trial c t store).answer = some r ↔
      ∃ u, ((conn.driver.call c).run none t store).finished = some (r, u) ∧
        u ≤ t + Tick.ofMillis conn.requestTimeout.timerMillis := by
  rw [trial]
  generalize hd : t + Tick.ofMillis conn.requestTimeout.timerMillis = deadline
  have ht : Timed.isSeen (some deadline) t = true :=
    decide_eq_true (hd ▸ Nat.le_add_right t _)
  have hseen a u := Timed.run_seen (s := store) (conn.driver.call c) ht (a := a) (u := u)
  rw [Driver.attempt]
  -- The trial ends as the driver does by itself, or the driver would have ended later.
  obtain ⟨⟨a, u⟩, h, same⟩ | ⟨h, late⟩ :=
    Timed.run_outlasts (conn.driver.call c) (fun u _ => Timed.isSeen_none u) ht store
  · have hu : u ≤ deadline := of_decide_eq_true (hseen a u h).2
    simp only [same, h, Option.map_some, Option.some.injEq, Prod.mk.injEq]
    exact ⟨fun hr => ⟨u, ⟨hr, rfl⟩, hu⟩, fun ⟨_, hr, _⟩ => hr.1⟩
  · simp only [h, Option.map_none]
    refine iff_of_false nofun fun ⟨u, hr, hu⟩ => ?_
    have hl := late r u hr
    rw [Timed.isSeen_some, decide_eq_true hu] at hl
    cases hl

theorem start_trial (c : Command) (t : Tick) (store : δ) : (conn.trial c t store).start = t := rfl

/-- The wait for a command is not over before it begins. -/
theorem le_stop_trial (c : Command) (t : Tick) (store : δ) : t ≤ (conn.trial c t store).stop :=
  conn.driver.le_stop_attempt c (Nat.le_add_right t _) store

/-! ## One command -/

/-- A command that is waited for up to a deadline. -/
theorem gave_attempt (conn : Connection δ) (c : Command) (failed : Cause → Failure)
    (deadline t : Tick) (l : Link δ) :
    let o := ((conn.invoke c).bind fun r => .done (r.mapError failed)).run (some deadline) t l
    let x := conn.driver.attempt c deadline t l.store
    Timed.Outcome.Gave
      ⟨some (o.finished.getD (.error (.timeout conn.requestTimeout.wholeMillis), deadline)),
        o.state, o.events⟩ conn.driver [c] (conn.told failed x) x.stop
      { l with store := x.store } := by
  have hcmd (hq : conn.driver.Quiet) := hq c (some deadline) t l.store
  simp only [Timed.run_bind, run_invoke, Driver.attempt, told]
  generalize (conn.driver.call c).run (some deadline) t l.store = o at *
  obtain ⟨_ | ⟨r, u⟩, store, es⟩ := o
  · refine ⟨rfl, fun hq => ?_, rfl⟩
    simpa [Timed.Outcome.andThen, Timed.Outcome.commands, Event.command?] using hcmd hq
  · refine ⟨?_, fun hq => ?_, rfl⟩
    · cases r <;> rfl
    · simpa [Timed.Outcome.andThen, Timed.Outcome.after, Timed.Outcome.commands, Timed.run,
        Event.command?] using hcmd hq

/-- A command of a call that nobody cancels. -/
theorem gave_guarded (conn : Connection δ) (c : Command) (failed : Cause → Failure) (t : Tick)
    (l : Link δ) :
    ((conn.guarded conn.allowance c failed).run.run none t l).Gave conn.driver [c]
      (conn.told failed (conn.trial c t l.store)) (conn.trial c t l.store).stop
      { l with store := (conn.trial c t l.store).store } := by
  rw [guarded, ExceptT.run, Context.run_within_of_timeout]
  exact conn.gave_attempt c failed _ t l

end Connection

end KvBridge
