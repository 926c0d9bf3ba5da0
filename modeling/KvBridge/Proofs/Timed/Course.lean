import KvBridge.Proofs.Timed.Horizon

/-!
# How work with a deadline goes

Work with a deadline that is not cancelled when it starts takes one of three courses
(`Context.Course`). It does what it does by itself if it comes to its end by the deadline and before
it is cancelled. Else it is cut short, and fails with its deadline if nobody cancels it by then, or
as cancelled when somebody does.

* `Context.Permits`: an end that comes in time;
* `Context.course_within`: work with a deadline takes its course;
* `Context.course_orTimeout`: the same with the caller's deadline or else another one.
-/

namespace KvBridge

variable {ε σ α : Type}

/-- The tick at which a timer of that length fires that is set at a tick. -/
def Duration.due (d : Duration) (t : Tick) : Tick := t + Tick.ofMillis d.timerMillis

namespace Context

/-- The deadline of the caller, or else another one. -/
def deadlineOr (ctx : Context) (fallback : Duration) : Duration := ctx.timeout.getD fallback

/-- Work that starts at a tick and comes to its end at another has done so in time: by its deadline,
and before it is cancelled. -/
structure Permits (ctx : Context) (d : Duration) (t u : Tick) : Prop where
  byDeadline : u ≤ d.due t
  calm : ctx.isCancelled u = false

/-- The work does not come to its end in time by itself, if at all. -/
def Overruns (ctx : Context) (d : Duration) (body : Timed ε σ (Except Failure α)) (t : Tick)
    (s : σ) : Prop :=
  ∀ r u, (body.run none t s).finished = some (r, u) → ¬ ctx.Permits d t u

/-- How work with a deadline goes, by how it goes by itself. What it has done when it is cut short
it has done before some horizon. -/
inductive Course (ctx : Context) (d : Duration) (body : Timed ε σ (Except Failure α)) (t : Tick)
    (s : σ) : Timed.Outcome ε σ (Except Failure α) → Prop
  /-- It comes to its end in time. -/
  | done {o : Timed.Outcome ε σ (Except Failure α)} (r : Except Failure α) (u : Tick)
      (ends : o.finished = some (r, u)) (permits : ctx.Permits d t u)
      (alone : body.run none t s = o) : Course ctx d body t s o
  /-- Its deadline comes. -/
  | expired (near : Option Tick) (overruns : ctx.Overruns d body t s)
      (calm : ctx.isCancelled (d.due t) = false) :
      Course ctx d body t s ⟨some (.error (.timeout d.wholeMillis), d.due t),
        (body.run near t s).state, (body.run near t s).events⟩
  /-- It is cancelled. -/
  | cancelled (near : Option Tick) (cut : Tick) (overruns : ctx.Overruns d body t s)
      (byDeadline : cut ≤ d.due t) (told : ctx.isCancelled cut = true) :
      Course ctx d body t s ⟨some (.error .cancelled, cut), (body.run near t s).state,
        (body.run near t s).events⟩

variable {ctx : Context} {d : Duration} {t : Tick}

theorem timeoutMs_guard (hd : ctx.timeout = some d) :
    ctx.guard.timeoutMs = some d.timerMillis := by
  rw [guard, hd]
  rfl

/-- Work is in time exactly up to its alarm. -/
theorem permits_iff_le_lastTick (hd : ctx.timeout = some d) (hc : ctx.isCancelled t = false)
    {why : Interruption} {cut : Tick} (ha : ctx.guard.alarm t = some (why, cut)) (u : Tick) :
    ctx.Permits d t u ↔ u ≤ why.lastTick cut := by
  obtain ⟨-, -, hk, hcut⟩ := Guard.alarm_spec (g := ctx.guard) hc ha
  obtain ⟨hle, hexp⟩ := Guard.alarm_le (timeoutMs_guard hd) ha
  constructor
  · rintro ⟨hu, calm⟩
    refine Nat.le_of_not_lt fun hlt => ?_
    cases why with
    | expired => exact Nat.lt_irrefl _ (Nat.lt_of_lt_of_le hlt (hexp rfl ▸ hu))
    | cancelled =>
      have told : ctx.isCancelled u = true :=
        isCancelled_of_le (Interruption.le_of_lastTick_lt hlt) (hcut.2 rfl)
      rw [calm] at told
      cases told
  · exact fun hu => ⟨Nat.le_trans hu (Nat.le_trans (why.lastTick_le cut) hle), hk u hu⟩

/-- Work that has an alarm does as much as it can do by then, before each horizon. -/
theorem run_within_of_alarm_before (hc : ctx.isCancelled t = false) {why : Interruption}
    {cut : Tick} (ha : ctx.guard.alarm t = some (why, cut)) (body : Timed ε σ (Except Failure α))
    (horizon : Option Tick) (s : σ) :
    (ctx.within body).run horizon t s =
      let o := body.run (some (Timed.nearer horizon (why.lastTick cut))) t s
      ⟨o.finished.or (if Timed.isSeen horizon cut then some (.error (ctx.failure why), cut)
        else none), o.state, o.events⟩ := by
  have hc' : ctx.guard.isCancelled t = false := hc
  rw [within, Timed.run, hc', ha]
  simp only [Bool.false_eq_true, if_false]
  generalize body.run (some (Timed.nearer horizon (why.lastTick cut))) t s = o
  obtain ⟨_ | ⟨r, u⟩, s', es⟩ := o
  · dsimp only
    split
    · simp [Timed.run, settle, Timed.Outcome.after]
    · rfl
  · simp [Timed.run, settle, Timed.Outcome.after]

/-- Work that has an alarm does as much as it can do by then. -/
theorem run_within_of_alarm (hc : ctx.isCancelled t = false) {why : Interruption} {cut : Tick}
    (ha : ctx.guard.alarm t = some (why, cut)) (body : Timed ε σ (Except Failure α)) (s : σ) :
    (ctx.within body).run none t s =
      let o := body.run (some (why.lastTick cut)) t s
      ⟨some (o.finished.getD (.error (ctx.failure why), cut)), o.state, o.events⟩ := by
  rw [run_within_of_alarm_before hc ha]
  show (⟨Option.or _ (some _), _, _⟩ : Timed.Outcome ε σ _) = _
  rw [Option.or_some]
  rfl

/-- Work with a deadline that is not cancelled when it starts takes its course. -/
theorem course_within (hd : ctx.timeout = some d) (hc : ctx.isCancelled t = false)
    (body : Timed ε σ (Except Failure α)) (s : σ) :
    ctx.Course d body t s ((ctx.within body).run none t s) := by
  cases ha : ctx.guard.alarm t with
  | none => exact absurd ha (Guard.alarm_ne_none (timeoutMs_guard hd) t)
  | some alarm =>
    obtain ⟨why, cut⟩ := alarm
    obtain ⟨hl, -, -, hcut⟩ := Guard.alarm_spec (g := ctx.guard) hc ha
    obtain ⟨hle, hexp⟩ := Guard.alarm_le (timeoutMs_guard hd) ha
    have permits := permits_iff_le_lastTick hd hc ha
    have hn : Timed.isSeen (some (why.lastTick cut)) t = true := decide_eq_true hl
    rw [run_within_of_alarm hc ha]
    obtain ⟨⟨r, u⟩, hb, same⟩ | ⟨hb, beyond⟩ :=
      Timed.run_outlasts body (fun u _ => Timed.isSeen_none u) hn s
    · have hu : u ≤ why.lastTick cut := of_decide_eq_true (Timed.run_seen body hn hb).2
      generalize body.run (some (why.lastTick cut)) t s = o at hb same ⊢
      obtain ⟨finished, s', es⟩ := o
      cases hb
      exact .done r u rfl ((permits u).2 hu) same
    · have overruns : ctx.Overruns d body t s := fun r u hr hp => by
        have hu := beyond r u hr
        rw [Timed.isSeen_some, decide_eq_true ((permits u).1 hp)] at hu
        cases hu
      simp only [hb, Option.getD_none]
      cases why with
      | cancelled => exact .cancelled _ cut overruns hle (hcut.2 rfl)
      | expired =>
        obtain rfl := hexp rfl
        have calm : ctx.isCancelled (d.due t) = false :=
          Bool.eq_false_iff.2 fun h => nomatch hcut.1 h
        have told : ctx.failure .expired = .timeout d.wholeMillis := by
          rw [failure, hd]
          rfl
        rw [told]
        exact .expired _ overruns calm

/-- Work with the deadline of the caller or else another one. -/
theorem course_orTimeout (hc : ctx.isCancelled t = false) (fallback : Duration)
    (body : Timed ε σ (Except Failure α)) (s : σ) :
    ctx.Course (ctx.deadlineOr fallback) body t s
      (((ctx.orTimeout fallback).within body).run none t s) := by
  have hd : (ctx.orTimeout fallback).timeout = some (ctx.deadlineOr fallback) := by
    obtain ⟨cancelledAt, _ | d⟩ := ctx
    · rfl
    · rfl
  have permits {u : Tick} (h : ctx.Permits (ctx.deadlineOr fallback) t u) :
      (ctx.orTimeout fallback).Permits (ctx.deadlineOr fallback) t u := ⟨h.byDeadline, h.calm⟩
  have course := course_within hd hc body s
  generalize ((ctx.orTimeout fallback).within body).run none t s = o at course
  cases course with
  | done r u ends h alone => exact .done r u ends ⟨h.byDeadline, h.calm⟩ alone
  | expired near overruns calm =>
    exact .expired near (fun r u hr hp => overruns r u hr (permits hp)) calm
  | cancelled near cut overruns byDeadline told =>
    exact .cancelled near cut (fun r u hr hp => overruns r u hr (permits hp)) byDeadline told

namespace Course

variable {body : Timed ε σ (Except Failure α)} {s : σ} {o : Timed.Outcome ε σ (Except Failure α)}
  {r : Except Failure α} {u : Tick}

/-- Before some horizon, work goes as it does by itself. -/
theorem worked (h : ctx.Course d body t s o) :
    ∃ near, o.state = (body.run near t s).state ∧ o.events = (body.run near t s).events := by
  cases h with
  | done r u ends permits alone => exact ⟨none, by rw [alone], by rw [alone]⟩
  | expired near => exact ⟨near, rfl, rfl⟩
  | cancelled near => exact ⟨near, rfl, rfl⟩

/-- Work that comes to its end in time is done as it is by itself. -/
theorem eq_of_permits (h : ctx.Course d body t s o)
    (ends : (body.run none t s).finished = some (r, u)) (permits : ctx.Permits d t u) :
    o = body.run none t s := by
  cases h with
  | done _ _ _ _ alone => exact alone.symm
  | expired near overruns => exact absurd permits (overruns r u ends)
  | cancelled near cut overruns => exact absurd permits (overruns r u ends)

/-- Work that comes to its end in time answers what it answers by itself. -/
theorem finished_of_permits (h : ctx.Course d body t s o)
    (ends : (body.run none t s).finished = some (r, u)) (permits : ctx.Permits d t u) :
    o.finished = some (r, u) := by
  rw [h.eq_of_permits ends permits, ends]

/-- Work that succeeds has come to its end in time. -/
theorem permits_of_finished {a : α} (h : ctx.Course d body t s o)
    (ho : o.finished = some (.ok a, u)) :
    (body.run none t s).finished = some (.ok a, u) ∧ ctx.Permits d t u := by
  cases h with
  | done r v ends permits alone =>
    rw [ends] at ho
    cases ho
    exact ⟨by rw [alone, ends], permits⟩
  | expired | cancelled => cases ho

/-- Work that does not come to its end in time fails with its deadline, if it is not cancelled by
then. -/
theorem finished_of_calm (h : ctx.Course d body t s o) (overruns : ctx.Overruns d body t s)
    (calm : ctx.isCancelled (d.due t) = false) :
    o.finished = some (.error (.timeout d.wholeMillis), d.due t) := by
  cases h with
  | done r u ends permits alone => exact absurd permits (overruns r u (by rw [alone, ends]))
  | expired => rfl
  | cancelled near cut _ byDeadline told =>
    rw [isCancelled_of_le byDeadline told] at calm
    cases calm

/-- Work that does not come to its end in time fails as cancelled, if it is cancelled by its
deadline. -/
theorem finished_of_isCancelled (h : ctx.Course d body t s o)
    (overruns : ctx.Overruns d body t s) (told : ctx.isCancelled (d.due t) = true) :
    ∃ cut ≤ d.due t, ctx.isCancelled cut = true ∧ o.finished = some (.error .cancelled, cut) := by
  cases h with
  | done r u ends permits alone => exact absurd permits (overruns r u (by rw [alone, ends]))
  | expired near _ calm =>
    rw [told] at calm
    cases calm
  | cancelled near cut _ byDeadline told => exact ⟨cut, byDeadline, told, rfl⟩

/-- Work with a deadline ends. -/
theorem ends (h : ctx.Course d body t s o) : ∃ r u, o.finished = some (r, u) := by
  cases h with
  | done r u ends => exact ⟨r, u, ends⟩
  | expired | cancelled => exact ⟨_, _, rfl⟩

end Course

end Context

end KvBridge
