import KvBridge.Proofs.Timed.Course

/-!
# The earliest event decides

Three events may end work within a context: it comes to its end, its deadline comes, or it is
cancelled. The earliest of them decides what the caller is told and when (`Context.Decides`), and a
deadline does not cut short what ends in its very millisecond. Work within a context that is all the
work there is within another one with the same token has the nearer of both deadlines, and that of
the inner one if both come at once (`Context.run_within_within`).

* `Guard.alarm_cases`: which event an alarm is, and that it comes before the other one;
* `Context.finished_decides`: work that has an event ahead of it ends with the earliest one;
* `Context.Decides.unique`: no other answer and no other moment are possible;
* `Context.Racing`: how work goes within a context, wherever it starts.
-/

namespace KvBridge

variable {ε σ α : Type}

/-! ## Alarms -/

/-- What comes before an interruption is done. -/
theorem Interruption.le_lastTick {why : Interruption} {u cut : Tick} (h : u < cut) :
    u ≤ why.lastTick cut :=
  Nat.le_of_not_lt fun hlt => Nat.not_le_of_lt h (le_of_lastTick_lt hlt)

namespace Guard

variable {g : Guard} {t cut : Tick} {why : Interruption}

/-- An alarm is the cancellation, which comes no later than the deadline, or the end of the
deadline, which comes before the cancellation. -/
theorem alarm_cases (h : g.alarm t = some (why, cut)) :
    why = .cancelled ∧ g.cancelledAt = some cut ∧
        (∀ ms, g.timeoutMs = some ms → cut ≤ t + Tick.ofMillis ms) ∨
      why = .expired ∧ (∃ ms, g.timeoutMs = some ms ∧ cut = t + Tick.ofMillis ms) ∧
        ∀ c, g.cancelledAt = some c → cut < c := by
  obtain ⟨_ | c, _ | ms⟩ := g
  · cases h
  · cases h
    exact .inr ⟨rfl, ⟨ms, rfl, rfl⟩, nofun⟩
  · cases h
    exact .inl ⟨rfl, rfl, nofun⟩
  · simp only [alarm, Option.map_some] at h
    split at h
    · rename_i hc
      cases h
      refine .inl ⟨rfl, rfl, ?_⟩
      rintro _ ⟨⟩
      exact hc
    · rename_i hc
      cases h
      refine .inr ⟨rfl, ⟨ms, rfl, rfl⟩, ?_⟩
      rintro _ ⟨⟩
      exact Nat.lt_of_not_le hc

/-- Without an alarm there is neither a cancellation nor a deadline. -/
theorem alarm_eq_none_iff : g.alarm t = none ↔ g.cancelledAt = none ∧ g.timeoutMs = none := by
  obtain ⟨_ | c, _ | ms⟩ := g
  · simp [alarm]
  · simp [alarm]
  · simp [alarm]
  · simp only [alarm, Option.map_some]
    split <;> simp

variable {o : Guard} {cut' : Tick} {why' : Interruption}

/-- A cancellation that comes after the start comes before the work of its tick. -/
theorem lastTick_cancelled_lt (hg : g.isCancelled t = false)
    (ha : g.alarm t = some (.cancelled, cut)) : Interruption.cancelled.lastTick cut < cut := by
  obtain ⟨-, hk, -⟩ | ⟨⟨⟩, -⟩ := alarm_cases ha
  have hlt : t < cut := by simpa [isCancelled, hk] using hg
  exact Nat.sub_one_lt (Nat.ne_of_gt (Nat.zero_lt_of_lt hlt))

section SameToken

variable (token : o.cancelledAt = g.cancelledAt)

include token

/-- A guard with the token of another one that has no alarm, and with no deadline of its own, has no
alarm. -/
theorem alarm_eq_none_of_token (ha : g.alarm t = none)
    (near : ∀ ms', o.timeoutMs = some ms' → ∃ ms, g.timeoutMs = some ms) : o.alarm t = none := by
  obtain ⟨hk, hd⟩ := alarm_eq_none_iff.1 ha
  refine alarm_eq_none_iff.2 ⟨token.trans hk, Option.eq_none_iff_forall_ne_some.2 fun ms' h => ?_⟩
  obtain ⟨ms, h'⟩ := near ms' h
  cases hd.symm.trans h'

/-- The alarm of the guard whose deadline comes first comes within the work of the other one, or
both alarms are the cancellation. -/
theorem alarm_first (ha : g.alarm t = some (why, cut)) (ha' : o.alarm t = some (why', cut'))
    (near : ∀ ms', o.timeoutMs = some ms' → ∃ ms, g.timeoutMs = some ms ∧ ms ≤ ms') :
    cut ≤ why'.lastTick cut' ∨ why = .cancelled ∧ why' = .cancelled ∧ cut' = cut := by
  obtain ⟨rfl, hk, hd⟩ | ⟨rfl, ⟨ms, hms, rfl⟩, calm⟩ := alarm_cases ha
  · obtain ⟨rfl, hk', -⟩ | ⟨rfl, ⟨ms', hms', rfl⟩, calm'⟩ := alarm_cases ha'
    · exact .inr ⟨rfl, rfl, Option.some.inj (hk'.symm.trans (token.trans hk))⟩
    · obtain ⟨ms, hms, le⟩ := near ms' hms'
      have byDeadline : cut ≤ t + Tick.ofMillis ms := hd ms hms
      have beyond : t + Tick.ofMillis ms' < cut := calm' cut (token.trans hk)
      unfold Tick.ofMillis Tick at byDeadline beyond
      omega
  · refine .inl ?_
    obtain ⟨rfl, hk', -⟩ | ⟨rfl, ⟨ms', hms', rfl⟩, -⟩ := alarm_cases ha'
    · exact Interruption.le_lastTick (calm cut' (token.symm.trans hk'))
    · obtain ⟨_, hms', le⟩ := near ms' hms'
      cases hms.symm.trans hms'
      exact Nat.add_le_add_left (Nat.mul_le_mul_left 2 le) t

/-- The alarm of a guard comes after the work of another one whose deadline comes before its own. -/
theorem lastTick_lt_alarm (hg : g.isCancelled t = false) (ha : g.alarm t = some (why, cut))
    (ha' : o.alarm t = some (why', cut'))
    (near : ∀ ms, g.timeoutMs = some ms → ∃ ms', o.timeoutMs = some ms' ∧ ms' < ms) :
    why'.lastTick cut' < cut := by
  obtain ⟨rfl, hk, -⟩ | ⟨rfl, ⟨ms, hms, rfl⟩, calm⟩ := alarm_cases ha
  · obtain ⟨rfl, hk', -⟩ | ⟨rfl, -, calm'⟩ := alarm_cases ha'
    · cases hk'.symm.trans (token.trans hk)
      exact lastTick_cancelled_lt hg ha
    · exact calm' cut (token.trans hk)
  · obtain ⟨ms', hms', lt⟩ := near ms hms
    obtain ⟨rfl, hk', hd⟩ | ⟨rfl, ⟨_, hms'', rfl⟩, -⟩ := alarm_cases ha'
    · have byDeadline : cut' ≤ t + Tick.ofMillis ms' := hd ms' hms'
      have beyond : t + Tick.ofMillis ms < cut' := calm cut' (token.symm.trans hk')
      unfold Tick.ofMillis Tick at byDeadline beyond
      omega
    · cases hms'.symm.trans hms''
      exact Nat.add_lt_add_left (Nat.mul_lt_mul_of_pos_left lt Nat.two_pos) t

end SameToken

end Guard

/-! ## What lies ahead -/

/-- The complete milliseconds from one tick to another. -/
def Tick.elapsed (t u : Tick) : Nat := Tick.millis (u - t)

namespace Tick

variable {t : Tick}

theorem elapsed_add (t : Tick) (ms : Nat) : t.elapsed (t + ofMillis ms) = ms := by
  unfold elapsed millis ofMillis Tick
  omega

/-- What comes in a millisecond of its own comes before another event if its tick does. -/
theorem elapsed_lt {k : Tick} {ms : Nat} (h : k ≤ t + ofMillis ms)
    (ne : t.elapsed k ≠ ms) : t.elapsed k < ms := by
  unfold elapsed millis ofMillis Tick at *
  omega

/-- What comes in a millisecond of its own comes after another event if its tick does. -/
theorem lt_elapsed {k : Tick} {ms : Nat} (h : t + ofMillis ms < k)
    (ne : t.elapsed k ≠ ms) : ms < t.elapsed k := by
  unfold elapsed millis ofMillis Tick at *
  omega

end Tick

namespace Context

/-- What may end work within a context, and after how many milliseconds: it comes to its end with
an answer, its deadline comes, or it is cancelled. -/
structure Outlook (α : Type) where
  work : Option (Except Failure α × Nat)
  deadline : Option Duration
  cancellation : Option Nat

/-- What lies ahead of work that starts within the context at a tick, and comes to its end by itself
in this way. -/
def outlook (ctx : Context) (t : Tick) (work : Option (Except Failure α × Nat)) : Outlook α :=
  ⟨work, ctx.timeout, ctx.cancelledAt.map t.elapsed⟩

namespace Outlook

/-- Nothing lies ahead. -/
structure IsEmpty (ahead : Outlook α) : Prop where
  work : ahead.work = none
  deadline : ahead.deadline = none
  cancellation : ahead.cancellation = none

/-- The cancellation comes in a millisecond of its own. -/
structure Apart (ahead : Outlook α) : Prop where
  work : ∀ c r d, ahead.cancellation = some c → ahead.work = some (r, d) → c ≠ d
  deadline : ∀ c limit, ahead.cancellation = some c → ahead.deadline = some limit →
    c ≠ limit.timerMillis

end Outlook

/-- The earliest event comes after so many milliseconds, and this is what the caller is told of it.
The deadline comes in whole milliseconds, rounded up, and is told in whole milliseconds, rounded
down, as far as 64 bits hold them. -/
inductive Decides (ahead : Outlook α) : Except Failure α → Nat → Prop
  | cancelled (c : Nat) (told : ahead.cancellation = some c)
    (beforeEnd : ∀ r d, ahead.work = some (r, d) → c < d)
    (beforeDeadline : ∀ limit, ahead.deadline = some limit → c < limit.timerMillis) :
    Decides ahead (.error .cancelled) c
  | done (r : Except Failure α) (d : Nat) (ends : ahead.work = some (r, d))
    (byDeadline : ∀ limit, ahead.deadline = some limit → d ≤ limit.timerMillis)
    (calm : ∀ c, ahead.cancellation = some c → d < c) : Decides ahead r d
  | expired (limit : Duration) (due : ahead.deadline = some limit)
    (overrun : ∀ r d, ahead.work = some (r, d) → limit.timerMillis < d)
    (calm : ∀ c, ahead.cancellation = some c → limit.timerMillis < c) (millis : UInt64)
    (told : millis.toNat = min (limit.nanos / 1000000) (UInt64.size - 1)) :
    Decides ahead (.error (.timeout millis)) limit.timerMillis

/-- No other answer and no other moment are possible. -/
theorem Decides.unique {ahead : Outlook α} {r r' : Except Failure α} {ms ms' : Nat}
    (h : Decides ahead r ms) (h' : Decides ahead r' ms') : r = r' ∧ ms = ms' := by
  cases h with
  | cancelled _ told beforeEnd beforeDeadline =>
    cases h' with
    | cancelled _ told' => exact ⟨rfl, Option.some.inj (told.symm.trans told')⟩
    | done _ _ ends _ calm => exact absurd (calm ms told) (Nat.lt_asymm (beforeEnd r' ms' ends))
    | expired limit due _ calm =>
      exact absurd (calm ms told) (Nat.lt_asymm (beforeDeadline limit due))
  | done _ _ ends byDeadline calm =>
    cases h' with
    | cancelled _ told beforeEnd =>
      exact absurd (calm ms' told) (Nat.lt_asymm (beforeEnd r ms ends))
    | done _ _ ends' =>
      cases ends.symm.trans ends'
      exact ⟨rfl, rfl⟩
    | expired limit due overrun =>
      exact absurd (byDeadline limit due) (Nat.not_le_of_lt (overrun r ms ends))
  | expired limit due overrun calm millis told =>
    cases h' with
    | cancelled _ told _ beforeDeadline =>
      exact absurd (calm ms' told) (Nat.lt_asymm (beforeDeadline limit due))
    | done _ _ ends byDeadline =>
      exact absurd (byDeadline limit due) (Nat.not_le_of_lt (overrun r' ms' ends))
    | expired limit' due' _ _ millis' told' =>
      cases due.symm.trans due'
      cases UInt64.toNat_inj.1 (told.trans told'.symm)
      exact ⟨rfl, rfl⟩

/-! ## The earliest event -/

section Earliest

variable {ctx : Context} {t cut : Tick} {why : Interruption} {x : Timed ε σ (Except Failure α)}
  {s : σ} {work : Option (Except Failure α × Nat)}

theorem cancellation_outlook {c : Nat} :
    (ctx.outlook t work).cancellation = some c ↔ ∃ k, ctx.cancelledAt = some k ∧ t.elapsed k = c :=
  Option.map_eq_some_iff

theorem timeoutMs_eq_some_iff {ms : Nat} :
    ctx.guard.timeoutMs = some ms ↔ ∃ d, ctx.timeout = some d ∧ d.timerMillis = ms :=
  Option.map_eq_some_iff

/-- Work that comes to its end in time is the earliest event. -/
theorem decides_of_ended {r : Except Failure α} {d : Nat}
    (apart : (ctx.outlook t (some (r, d))).Apart)
    (byDeadline : ∀ limit, ctx.timeout = some limit → d ≤ limit.timerMillis)
    (calm : ctx.isCancelled (t + Tick.ofMillis d) = false) :
    Decides (ctx.outlook t (some (r, d))) r d := by
  refine .done r d rfl byDeadline fun c hc => ?_
  obtain ⟨k, hk, rfl⟩ := cancellation_outlook.1 hc
  have hlt : t + Tick.ofMillis d < k := by simpa [isCancelled, hk] using calm
  exact Tick.lt_elapsed hlt (apart.work _ r d hc rfl)

/-- The alarm of work that does not come to its end by then is the earliest event. -/
theorem decides_of_alarm (apart : (ctx.outlook t work).Apart)
    (ha : ctx.guard.alarm t = some (why, cut))
    (late : ∀ r d, work = some (r, d) → why.lastTick cut < t + Tick.ofMillis d) :
    Decides (ctx.outlook t work) (.error (ctx.failure why)) (t.elapsed cut) := by
  obtain ⟨rfl, hk, hd⟩ | ⟨rfl, ⟨ms, hms, rfl⟩, hk⟩ := Guard.alarm_cases ha
  · have told : (ctx.outlook t work).cancellation = some (t.elapsed cut) :=
      cancellation_outlook.2 ⟨cut, hk, rfl⟩
    refine .cancelled _ told (fun r d hw => ?_) fun limit hl => ?_
    · have before := Interruption.le_of_lastTick_lt (late r d hw)
      exact Tick.elapsed_lt before (apart.work _ r d told hw)
    · have hms := timeoutMs_eq_some_iff.2 ⟨limit, hl, rfl⟩
      exact Tick.elapsed_lt (hd _ hms) (apart.deadline _ limit told hl)
  · obtain ⟨limit, hl, rfl⟩ := timeoutMs_eq_some_iff.1 hms
    have told : ctx.failure .expired = .timeout limit.wholeMillis := by
      rw [failure, hl]
      rfl
    rw [told, Tick.elapsed_add]
    refine .expired limit hl (fun r d hw => ?_) (fun c hc => ?_) _ limit.toNat_wholeMillis
    · have hlt : t + Tick.ofMillis limit.timerMillis < t + Tick.ofMillis d := late r d hw
      unfold Tick.ofMillis Tick at hlt
      omega
    · obtain ⟨k, hc', rfl⟩ := cancellation_outlook.1 hc
      exact Tick.lt_elapsed (hk k hc') (apart.deadline _ limit hc hl)

/-- Work that has an alarm ends with it, unless it comes to its end by then. -/
theorem finished_within_of_alarm (hc : ctx.isCancelled t = false)
    (ha : ctx.guard.alarm t = some (why, cut)) (x : Timed ε σ (Except Failure α)) (s : σ) :
    ((ctx.within x).run none t s).finished =
      some ((x.run (some (why.lastTick cut)) t s).finished.getD
        (.error (ctx.failure why), cut)) := by
  rw [run_within_of_alarm hc ha]

/-- Work that has an event ahead of it ends with the earliest one. -/
theorem finished_decides (hc : ctx.isCancelled t = false)
    (hx : (x.run none t s).finished = work.map fun w => (w.1, t + Tick.ofMillis w.2))
    (apart : (ctx.outlook t work).Apart) (ahead : ¬ (ctx.outlook t work).IsEmpty) :
    ∃ r u, ((ctx.within x).run none t s).finished = some (r, u) ∧ t ≤ u ∧
      Decides (ctx.outlook t work) r (t.elapsed u) := by
  cases ha : ctx.guard.alarm t with
  | none =>
    obtain ⟨hk, hms⟩ := Guard.alarm_eq_none_iff.1 ha
    have hd : ctx.timeout = none := Option.map_eq_none_iff.1 hms
    rw [run_within_of_no_alarm hc ha, hx]
    cases work with
    | none => exact absurd ⟨rfl, hd, congrArg (Option.map t.elapsed) hk⟩ ahead
    | some w =>
      refine ⟨w.1, _, rfl, Nat.le_add_right _ _, ?_⟩
      rw [Tick.elapsed_add]
      refine decides_of_ended apart (fun limit hl => ?_) (Guard.isCancelled_of_alarm_none ha _)
      rw [hd] at hl
      cases hl
  | some alarm =>
    obtain ⟨why, cut⟩ := alarm
    obtain ⟨hl, hle, calm, -⟩ := Guard.alarm_spec (g := ctx.guard) hc ha
    have hn : Timed.isSeen (some (why.lastTick cut)) t = true := decide_eq_true hl
    rw [finished_within_of_alarm hc ha]
    obtain ⟨⟨r, u⟩, hb, same⟩ | ⟨hb, late⟩ :=
      Timed.run_outlasts x (fun u _ => Timed.isSeen_none u) hn s
    · have hu : u ≤ why.lastTick cut := of_decide_eq_true (Timed.run_seen x hn hb).2
      obtain ⟨⟨r', d⟩, hw, hr⟩ := Option.map_eq_some_iff.1 (hx.symm.trans (same ▸ hb))
      cases hw
      cases hr
      refine ⟨_, _, by rw [hb]; rfl, Nat.le_add_right _ _, ?_⟩
      rw [Tick.elapsed_add]
      refine decides_of_ended apart (fun limit hlimit => ?_) (calm _ hu)
      have hcut := (Guard.alarm_le (timeoutMs_guard hlimit) ha).1
      have hd : t + Tick.ofMillis d ≤ t + Tick.ofMillis limit.timerMillis :=
        Nat.le_trans hu (Nat.le_trans (why.lastTick_le cut) hcut)
      unfold Tick.ofMillis Tick at hd
      omega
    · refine ⟨_, cut, by rw [hb]; rfl, hle, decides_of_alarm apart ha fun r d hw => ?_⟩
      have hlate := late r (t + Tick.ofMillis d) (by rw [hx, hw]; rfl)
      exact Nat.lt_of_not_le (of_decide_eq_false hlate)

/-- Work that has no event ahead of it does not end. -/
theorem finished_of_isEmpty (hc : ctx.isCancelled t = false)
    (hx : (x.run none t s).finished = work.map fun w => (w.1, t + Tick.ofMillis w.2))
    (empty : (ctx.outlook t work).IsEmpty) : ((ctx.within x).run none t s).finished = none := by
  have hk : ctx.cancelledAt = none := Option.map_eq_none_iff.1 empty.cancellation
  have hd : ctx.guard.timeoutMs = none := Option.map_eq_none_iff.2 empty.deadline
  have hw : work = none := empty.work
  rw [run_within_of_no_alarm hc (Guard.alarm_eq_none_iff.2 ⟨hk, hd⟩), hx, hw]
  rfl

end Earliest

/-! ## Work within two contexts -/

/-- The nearer one of an inner and an outer deadline as the timers keep them, and the inner one if
both come at once. -/
def sooner : Option Duration → Option Duration → Option Duration
  | some inner, some outer => if outer.timerMillis < inner.timerMillis then outer else inner
  | some inner, none => inner
  | none, outer => outer

/-- It is the inner one, which comes by the outer one, or the outer one, which comes before the
inner one. -/
theorem sooner_cases (inner outer : Option Duration) :
    sooner inner outer = inner ∧
        (∀ ms', outer.map Duration.timerMillis = some ms' →
          ∃ ms, inner.map Duration.timerMillis = some ms ∧ ms ≤ ms') ∨
      sooner inner outer = outer ∧
        ∀ ms, inner.map Duration.timerMillis = some ms →
          ∃ ms', outer.map Duration.timerMillis = some ms' ∧ ms' < ms := by
  obtain _ | i := inner
  · exact .inr ⟨rfl, nofun⟩
  obtain _ | o := outer
  · exact .inl ⟨rfl, nofun⟩
  by_cases hlt : o.timerMillis < i.timerMillis
  · refine .inr ⟨if_pos hlt, ?_⟩
    rintro _ ⟨⟩
    exact ⟨_, rfl, hlt⟩
  · refine .inl ⟨if_neg hlt, ?_⟩
    rintro _ ⟨⟩
    exact ⟨_, rfl, Nat.le_of_not_lt hlt⟩

section Nested

variable {inner outer : Context} {t : Tick} {x : Timed ε σ (Except Failure α)} {s : σ}
  {why why' : Interruption} {cut cut' : Tick}

/-- The alarm of the inner context comes first. -/
theorem run_within_within_of_le (hi : inner.isCancelled t = false)
    (ho : outer.isCancelled t = false) (ha : inner.guard.alarm t = some (why, cut))
    (ha' : outer.guard.alarm t = some (why', cut')) (le : cut ≤ why'.lastTick cut') :
    (outer.within (inner.within x)).run none t s = (inner.within x).run none t s := by
  have seen : Timed.isSeen (some (why'.lastTick cut')) cut = true := decide_eq_true le
  have hn : Timed.nearer (some (why'.lastTick cut')) (why.lastTick cut) = why.lastTick cut :=
    Nat.min_eq_left (Nat.le_trans (why.lastTick_le cut) le)
  rw [run_within_of_alarm ho ha', run_within_of_alarm_before hi ha, run_within_of_alarm hi ha, hn]
  simp only [seen, if_true, Option.or_some, Option.getD_some]

/-- The alarm of the outer context comes first. -/
theorem run_within_within_of_lt (hi : inner.isCancelled t = false)
    (ho : outer.isCancelled t = false) (ha : inner.guard.alarm t = some (why, cut))
    (ha' : outer.guard.alarm t = some (why', cut')) (lt : why'.lastTick cut' < cut) :
    (outer.within (inner.within x)).run none t s = (outer.within x).run none t s := by
  have unseen : Timed.isSeen (some (why'.lastTick cut')) cut = false :=
    decide_eq_false (Nat.not_le_of_lt lt)
  have hn : Timed.nearer (some (why'.lastTick cut')) (why.lastTick cut) = why'.lastTick cut' :=
    Nat.min_eq_right (Interruption.le_lastTick lt)
  rw [run_within_of_alarm ho ha', run_within_of_alarm_before hi ha, run_within_of_alarm ho ha', hn]
  simp only [unseen, Bool.false_eq_true, if_false, Option.or_none]

/-- Two contexts do the same with work that is cancelled in both at one tick. -/
theorem run_within_of_cancelled (hi : inner.isCancelled t = false)
    (ho : outer.isCancelled t = false) (ha : inner.guard.alarm t = some (.cancelled, cut))
    (ha' : outer.guard.alarm t = some (.cancelled, cut)) :
    (outer.within x).run none t s = (inner.within x).run none t s := by
  rw [run_within_of_alarm ho ha', run_within_of_alarm hi ha]
  rfl

variable (token : outer.cancelledAt = inner.cancelledAt) (hi : inner.isCancelled t = false)
  (ho : outer.isCancelled t = false)

include token hi ho

/-- The deadline of the inner context comes by that of the outer one. -/
theorem run_within_within_of_inner
    (near : ∀ ms', outer.guard.timeoutMs = some ms' →
      ∃ ms, inner.guard.timeoutMs = some ms ∧ ms ≤ ms') :
    (outer.within (inner.within x)).run none t s = (inner.within x).run none t s := by
  cases ha' : outer.guard.alarm t with
  | none => exact run_within_of_no_alarm ho ha' _ none s
  | some alarm' =>
    cases ha : inner.guard.alarm t with
    | none =>
      have none' := Guard.alarm_eq_none_of_token (g := inner.guard) (o := outer.guard) token ha
        fun ms' h => (near ms' h).imp fun _ => And.left
      cases none'.symm.trans ha'
    | some alarm =>
      obtain le | ⟨h, h', hcut⟩ :=
        Guard.alarm_first (g := inner.guard) (o := outer.guard) token ha ha' near
      · exact run_within_within_of_le hi ho ha ha' le
      · obtain ⟨why, cut⟩ := alarm
        obtain ⟨why', cut'⟩ := alarm'
        cases h
        cases h'
        cases hcut
        have lt := Guard.lastTick_cancelled_lt (g := inner.guard) hi ha
        rw [run_within_within_of_lt hi ho ha ha' lt]
        exact run_within_of_cancelled hi ho ha ha'

/-- The deadline of the outer context comes before that of the inner one. -/
theorem run_within_within_of_outer
    (near : ∀ ms, inner.guard.timeoutMs = some ms →
      ∃ ms', outer.guard.timeoutMs = some ms' ∧ ms' < ms) :
    (outer.within (inner.within x)).run none t s = (outer.within x).run none t s := by
  cases ha : inner.guard.alarm t with
  | none =>
    have ignored horizon : (inner.within x).run horizon t s = x.run horizon t s :=
      run_within_of_no_alarm hi ha x horizon s
    cases ha' : outer.guard.alarm t with
    | none => rw [run_within_of_no_alarm ho ha', run_within_of_no_alarm ho ha', ignored]
    | some alarm' => rw [run_within_of_alarm ho ha', run_within_of_alarm ho ha', ignored]
  | some alarm =>
    cases ha' : outer.guard.alarm t with
    | none =>
      have none' := Guard.alarm_eq_none_of_token (g := outer.guard) (o := inner.guard) token.symm
        ha' fun ms h => (near ms h).imp fun _ => And.left
      cases none'.symm.trans ha
    | some alarm' =>
      exact run_within_within_of_lt hi ho ha ha'
        (Guard.lastTick_lt_alarm (g := inner.guard) (o := outer.guard) token hi ha ha' near)

omit hi ho

/-- Work that is all the work there is within another context with the same token runs as within one
context with the nearer of both deadlines. -/
theorem run_within_within (x : Timed ε σ (Except Failure α)) (t : Tick) (s : σ) :
    (outer.within (inner.within x)).run none t s =
      (({ inner with timeout := sooner inner.timeout outer.timeout } : Context).within x).run
        none t s := by
  have hc : outer.isCancelled t = inner.isCancelled t := congrArg (·.any (· ≤ t)) token
  generalize hm : ({ inner with timeout := sooner inner.timeout outer.timeout } : Context) = m
  cases hi : inner.isCancelled t with
  | true =>
    have hm' : m.isCancelled t = true := hm ▸ hi
    rw [run_within_of_isCancelled (hc.trans hi), run_within_of_isCancelled hm']
  | false =>
    obtain ⟨hs, near⟩ | ⟨hs, near⟩ := sooner_cases inner.timeout outer.timeout
    · obtain rfl : inner = m := by rw [← hm, hs]
      exact run_within_within_of_inner token hi (hc.trans hi) near
    · obtain rfl : outer = m := by rw [← hm, hs, ← token]
      exact run_within_within_of_outer token hi (hc.trans hi) near

end Nested

/-! ## How work within a context goes -/

/-- How work within a context goes that starts at a tick, by how it comes to its end by itself: with
an answer after so many milliseconds, or never. -/
structure Racing (ctx : Context) (x : Timed ε σ (Except Failure α)) (t : Tick) (s : σ)
    (work : Option (Except Failure α × Nat)) : Prop where
  /-- If it is cancelled beforehand it does nothing at all. -/
  forestalled : ctx.isCancelled t = true →
    (ctx.within x).run none t s = ⟨some (.error .cancelled, t), s, []⟩
  /-- Else it starts, even if its deadline comes at once: it does what it does by itself up to some
  tick, which is not before its start. -/
  started : ctx.isCancelled t = false → ∃ near, Timed.isSeen near t = true ∧
    ((ctx.within x).run none t s).state = (x.run near t s).state ∧
    ((ctx.within x).run none t s).events = (x.run near t s).events
  /-- The earliest event decides what it answers, and when. -/
  decided : ctx.isCancelled t = false → ∀ r ms,
    (∃ u, ((ctx.within x).run none t s).finished = some (r, u) ∧ t ≤ u ∧ t.elapsed u = ms) ↔
      Decides (ctx.outlook t work) r ms
  /-- It has no end exactly if there is no event. -/
  endless : ctx.isCancelled t = false →
    (((ctx.within x).run none t s).finished = none ↔ (ctx.outlook t work).IsEmpty)
  /-- Within another context with the same token it goes as with the nearer of both deadlines. -/
  nested : ∀ outer : Context, outer.cancelledAt = ctx.cancelledAt →
    (outer.within (ctx.within x)).run none t s =
      (({ ctx with timeout := sooner ctx.timeout outer.timeout } : Context).within x).run none t s

theorem Decides.not_isEmpty {ahead : Outlook α} {r : Except Failure α} {ms : Nat}
    (h : Decides ahead r ms) : ¬ ahead.IsEmpty := by
  intro empty
  cases h with
  | cancelled _ told => cases empty.cancellation.symm.trans told
  | done _ _ ends => cases empty.work.symm.trans ends
  | expired _ due => cases empty.deadline.symm.trans due

/-- The earliest of its end, its deadline and its cancellation decides what becomes of work within a
context, if the cancellation comes in a millisecond of its own. -/
theorem earliest_event_decides (ctx : Context) (x : Timed ε σ (Except Failure α)) (t : Tick) (s : σ)
    (work : Option (Except Failure α × Nat))
    (hx : (x.run none t s).finished = work.map fun w => (w.1, t + Tick.ofMillis w.2))
    (apart : (ctx.outlook t work).Apart) : ctx.Racing x t s work where
  forestalled hc := run_within_of_isCancelled hc x none s
  started hc := by
    obtain ⟨near, hn, -, ending, -, hr⟩ := run_within hc (Timed.isSeen_none t) x s
    exact ⟨near, hn, by rw [hr], by rw [hr]⟩
  decided hc r ms := by
    constructor
    · rintro ⟨u, hu, -, rfl⟩
      have ahead : ¬ (ctx.outlook t work).IsEmpty := fun empty => by
        cases (finished_of_isEmpty hc hx empty).symm.trans hu
      obtain ⟨r', u', hu', -, h⟩ := finished_decides hc hx apart ahead
      cases hu.symm.trans hu'
      exact h
    · intro h
      obtain ⟨r', u, hu, hle, h'⟩ := finished_decides hc hx apart h.not_isEmpty
      obtain ⟨rfl, rfl⟩ := h.unique h'
      exact ⟨u, hu, hle, rfl⟩
  endless hc := by
    refine ⟨fun hn => Classical.byContradiction fun ahead => ?_, finished_of_isEmpty hc hx⟩
    obtain ⟨r, u, hu, -⟩ := finished_decides hc hx apart ahead
    cases hn.symm.trans hu
  nested outer token := run_within_within token x t s

/-- Work of nine milliseconds that is cancelled after six, with a deadline of three and a half: it
ends after four and is told of three, also within a deadline that comes in the same millisecond. -/
theorem earliest_event_of_overrun :
    let ctx : Context := ⟨some (Tick.ofCancellation 6), some ⟨3500000⟩⟩
    let outer : Context := ⟨some (Tick.ofCancellation 6), some ⟨4000000⟩⟩
    let x : Timed Unit Unit (Except Failure Nat) := .wait 9 (.done (.ok 7))
    (∃ u, ((ctx.within x).run none 0 ()).finished = some (.error (.timeout 3), u) ∧ 0 ≤ u ∧
        Tick.elapsed 0 u = 4) ∧
      ∃ u, ((outer.within (ctx.within x)).run none 0 ()).finished =
          some (.error (.timeout 3), u) ∧ 0 ≤ u ∧ Tick.elapsed 0 u = 4 := by
  intro ctx outer x
  have apart : (ctx.outlook 0 (some (.ok 7, 9) : Option (Except Failure Nat × Nat))).Apart := by
    refine ⟨?_, ?_⟩
    · rintro _ _ _ ⟨⟩ ⟨⟩
      decide
    · rintro _ _ ⟨⟩ ⟨⟩
      decide
  have racing := earliest_event_decides ctx x 0 () (some (.ok 7, 9)) rfl apart
  have expired : Decides (ctx.outlook 0 (some (.ok 7, 9))) (.error (.timeout 3)) 4 := by
    refine .expired ⟨3500000⟩ rfl ?_ ?_ 3 rfl
    · rintro _ _ ⟨⟩
      decide
    · rintro _ ⟨⟩
      decide
  have ended := (racing.decided rfl _ _).2 expired
  refine ⟨ended, ?_⟩
  rw [racing.nested outer rfl]
  exact ended

end Context

end KvBridge
