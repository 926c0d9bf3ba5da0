import KvBridge.Event
import KvBridge.Timed.Context

/-!
# What a run does, whatever the program

A run never goes back in time nor beyond its horizon (`run_seen`), a program on a part of a state
runs as it does on that part alone (`run_zoom`), and a part under a guard runs like its body before
some nearer horizon (`run_under`). How such a part ends is one of three:

* `Guard.Ending.done`: the body ended in time;
* `Guard.Ending.cut`: the alarm of the guard came first;
* `Guard.Ending.waiting`: neither came before the horizon.

`Context.run_within` states the same of work within the context of a call, and
`Context.run_within_of_timeout` what becomes of it if nobody cancels it. A program ends
(`Timed.Ends`) if its parts do, and work with a deadline ends whatever it is
(`Context.ends_within_of_timeout`).
-/

namespace KvBridge

variable {ε σ τ α β : Type}

namespace Timed

@[simp] theorem isSeen_none (t : Tick) : isSeen none t = true := rfl

@[simp] theorem isSeen_some (h t : Tick) : isSeen (some h) t = decide (t ≤ h) := rfl

theorem isSeen_nearer (horizon : Option Tick) (c t : Tick) :
    isSeen (some (nearer horizon c)) t = (isSeen horizon t && decide (t ≤ c)) := by
  cases horizon with
  | none => simp [nearer]
  | some h =>
    have hm : t ≤ min c h ↔ t ≤ h ∧ t ≤ c := by unfold Tick at *; omega
    simp [nearer, hm]

/-- What follows a run that ended. -/
theorem Outcome.andThen_some (a : α) (t : Tick) (s : σ) (es : List ε)
    (f : α → Tick → σ → Outcome ε σ β) :
    (⟨some (a, t), s, es⟩ : Outcome ε σ α).andThen f = (f a t s).after es := rfl

/-- Nothing else runs, so nothing keeps a part waiting that must run alone. -/
theorem run_alone (x : Timed ε σ α) (horizon : Option Tick) (t : Tick) (s : σ) :
    (alone x).run horizon t s = x.run horizon t s := by
  simp only [alone, run, Outcome.andThen]
  generalize x.run horizon t s = o
  obtain ⟨_ | ⟨a, u⟩, s', es⟩ := o
  · rfl
  · simp [Outcome.after]

/-- A program that goes on with nothing. -/
theorem bind_with_done (x : Timed ε σ α) : x.bind .done = x := by
  induction x with
  | done a => rfl
  | step act next ih => exact congrArg _ (funext ih)
  | emit e next ih => exact congrArg _ ih
  | wait ms next ih => exact congrArg _ ih
  | never => rfl
  | guarded g body next _ ih => exact congrArg _ (funext ih)
  | exclusive body next _ ih => exact congrArg _ (funext ih)

end Timed

/-! ## Alarms -/

namespace Guard

/-- A guard without an alarm cancels nothing. -/
theorem isCancelled_of_alarm_none {g : Guard} {t : Tick} (h : g.alarm t = none) (u : Tick) :
    g.isCancelled u = false := by
  obtain ⟨c, ms⟩ := g
  cases c with
  | none => rfl
  | some c => cases ms <;> simp only [alarm, Option.map_some, Option.map_none] at h <;>
      first | cases h | (split at h <;> cases h)

/-- A guard with a deadline has an alarm. -/
theorem alarm_ne_none {g : Guard} {ms : Nat} (h : g.timeoutMs = some ms) (t : Tick) :
    g.alarm t ≠ none := by
  obtain ⟨c, _⟩ := g
  cases h
  cases c with
  | none => simp [alarm]
  | some c =>
    simp only [alarm, Option.map_some]
    split <;> simp

/-- What an alarm that is set at a tick is: it comes no earlier than the work that it allows,
nothing is cancelled during that work, and the token is cancelled when it comes exactly if it is a
cancellation. -/
theorem alarm_spec {g : Guard} {t cut : Tick} {why : Interruption} (hg : g.isCancelled t = false)
    (h : g.alarm t = some (why, cut)) :
    t ≤ why.lastTick cut ∧ t ≤ cut ∧ (∀ u ≤ why.lastTick cut, g.isCancelled u = false) ∧
      (g.isCancelled cut = true ↔ why = .cancelled) := by
  obtain ⟨c, ms⟩ := g
  cases c with
  | none =>
    cases ms with
    | none => simp [alarm] at h
    | some ms =>
      simp only [alarm, Option.map_some, Option.some.injEq, Prod.mk.injEq] at h
      obtain ⟨rfl, rfl⟩ := h
      simp [isCancelled, Interruption.lastTick]
  | some c =>
    have hc : t < c := by simpa [isCancelled] using hg
    have expired {d : Tick} (hd : d < c) (ht : t ≤ d) :
        t ≤ Interruption.expired.lastTick d ∧ t ≤ d ∧
          (∀ u ≤ Interruption.expired.lastTick d, isCancelled ⟨some c, ms⟩ u = false) ∧
          (isCancelled ⟨some c, ms⟩ d = true ↔ Interruption.expired = .cancelled) := by
      simp only [Interruption.lastTick, isCancelled, Option.any_some, decide_eq_false_iff_not,
        decide_eq_true_eq, reduceCtorEq, iff_false, Tick] at *
      exact ⟨ht, ht, fun u hu => by omega, by omega⟩
    have cancelled :
        t ≤ Interruption.cancelled.lastTick c ∧ t ≤ c ∧
          (∀ u ≤ Interruption.cancelled.lastTick c, isCancelled ⟨some c, ms⟩ u = false) ∧
          (isCancelled ⟨some c, ms⟩ c = true ↔ Interruption.cancelled = .cancelled) := by
      simp only [Interruption.lastTick, isCancelled, Option.any_some, decide_eq_false_iff_not,
        decide_eq_true_eq, Tick] at *
      exact ⟨by omega, by omega, fun u hu => by omega, by simp⟩
    cases ms with
    | none =>
      simp only [alarm, Option.map_none, Option.some.injEq, Prod.mk.injEq] at h
      obtain ⟨rfl, rfl⟩ := h
      exact cancelled
    | some ms =>
      simp only [alarm, Option.map_some] at h
      split at h
      · simp only [Option.some.injEq, Prod.mk.injEq] at h
        obtain ⟨rfl, rfl⟩ := h
        exact cancelled
      · rename_i hd
        simp only [Option.some.injEq, Prod.mk.injEq] at h
        obtain ⟨rfl, rfl⟩ := h
        exact expired (Nat.lt_of_not_le hd) (Nat.le_add_right _ _)

/-- How a part under a guard that starts at a tick ends, by how its body ends by itself. -/
inductive Ending (g : Guard) (horizon : Option Tick) (t : Tick) :
    Option (β × Tick) → Option (Except Interruption β × Tick) → Prop
  /-- The body ended, before the alarm if there is one. -/
  | done (b : β) (u : Tick) (le : t ≤ u) (seen : Timed.isSeen horizon u = true)
      (early : ∀ why cut, g.alarm t = some (why, cut) → u ≤ why.lastTick cut) :
      Ending g horizon t (some (b, u)) (some (.ok b, u))
  /-- The alarm came. -/
  | cut (why : Interruption) (cut : Tick) (alarm : g.alarm t = some (why, cut))
      (seen : Timed.isSeen horizon cut = true) : Ending g horizon t none (some (.error why, cut))
  /-- The alarm does not come before the horizon, nor does the end of the body. -/
  | waiting (late : ∀ why cut, g.alarm t = some (why, cut) → Timed.isSeen horizon cut = false) :
      Ending g horizon t none none

end Guard

namespace Timed

/-- A run that starts within its horizon ends within it, and not before it starts. -/
theorem run_seen (x : Timed ε σ α) {horizon : Option Tick} {t : Tick} {s : σ}
    (ht : isSeen horizon t = true) {a : α} {u : Tick}
    (h : (x.run horizon t s).finished = some (a, u)) : t ≤ u ∧ isSeen horizon u = true := by
  induction x generalizing horizon t s u with
  | done b =>
    simp only [run, Option.some.injEq, Prod.mk.injEq] at h
    exact h.2 ▸ ⟨Nat.le_refl t, ht⟩
  | step act next ih => exact ih _ ht h
  | emit e next ih => exact ih ht h
  | wait ms next ih =>
    simp only [run] at h
    split at h
    · rename_i hw
      exact (ih hw h).imp_left (Nat.le_trans (Nat.le_add_right t _))
    · cases h
  | never => cases h
  | guarded g body next ihb ihn =>
    simp only [run] at h
    split at h
    · exact ihn _ ht h
    rename_i hg
    split at h
    · simp only [Outcome.andThen] at h
      split at h
      · rename_i hb
        obtain ⟨h1, h2⟩ := ihb ht hb
        exact (ihn _ h2 h).imp_left (Nat.le_trans h1)
      · cases h
    · rename_i why cut ha
      obtain ⟨hl, hc, -⟩ := Guard.alarm_spec (Bool.eq_false_iff.2 hg) ha
      split at h
      · rename_i hb
        have hn : isSeen (some (nearer horizon (why.lastTick cut))) t = true := by
          rw [isSeen_nearer, ht, decide_eq_true hl, Bool.and_self]
        obtain ⟨h1, h2⟩ := ihb hn hb
        rw [isSeen_nearer, Bool.and_eq_true] at h2
        exact (ihn _ h2.1 h).imp_left (Nat.le_trans h1)
      · split at h
        · rename_i hs
          exact (ihn _ hs h).imp_left (Nat.le_trans hc)
        · cases h
  | exclusive body next ihb ihn =>
    simp only [run, Outcome.andThen] at h
    split at h
    · rename_i hb
      obtain ⟨h1, h2⟩ := ihb ht hb
      exact (ihn _ h2 h).imp_left (Nat.le_trans h1)
    · cases h

/-- A part under a guard that is cancelled when it starts does nothing. -/
theorem run_under_of_isCancelled {g : Guard} {t : Tick} (hg : g.isCancelled t = true)
    (body : Timed ε σ β) (horizon : Option Tick) (s : σ) :
    (under g body).run horizon t s = ⟨some (.error .cancelled, t), s, []⟩ := by
  simp [under, run, hg]

/-- A part under a guard runs like its body before a horizon up to which the guard cancels
nothing. -/
theorem run_under {g : Guard} {horizon : Option Tick} {t : Tick} (hg : g.isCancelled t = false)
    (ht : isSeen horizon t = true) (body : Timed ε σ β) (s : σ) :
    ∃ nearby, isSeen nearby t = true ∧
      (∀ u, isSeen nearby u = true → isSeen horizon u = true ∧ g.isCancelled u = false) ∧
      ∃ ending, g.Ending horizon t (body.run nearby t s).finished ending ∧
        (under g body).run horizon t s =
          ⟨ending, (body.run nearby t s).state, (body.run nearby t s).events⟩ := by
  cases ha : g.alarm t with
  | none =>
    refine ⟨horizon, ht, fun u hu => ⟨hu, Guard.isCancelled_of_alarm_none ha u⟩, ?_⟩
    cases hb : (body.run horizon t s).finished with
    | none =>
      refine ⟨none, .waiting (by simp [ha]), ?_⟩
      simp [under, run, hg, ha, Outcome.andThen, hb]
    | some r =>
      obtain ⟨h1, h2⟩ := run_seen body ht hb
      refine ⟨some (.ok r.1, r.2), .done r.1 r.2 h1 h2 (by simp [ha]), ?_⟩
      simp [under, run, hg, ha, Outcome.andThen, hb, Outcome.after]
  | some alarm =>
    obtain ⟨why, cut⟩ := alarm
    obtain ⟨hl, -, hk, -⟩ := Guard.alarm_spec hg ha
    have hn : isSeen (some (nearer horizon (why.lastTick cut))) t = true := by
      rw [isSeen_nearer, ht, decide_eq_true hl, Bool.and_self]
    refine ⟨some (nearer horizon (why.lastTick cut)), hn, fun u hu => ?_, ?_⟩
    · rw [isSeen_nearer, Bool.and_eq_true, decide_eq_true_eq] at hu
      exact ⟨hu.1, hk u hu.2⟩
    cases hb : (body.run (some (nearer horizon (why.lastTick cut))) t s).finished with
    | none =>
      cases hs : isSeen horizon cut with
      | true =>
        refine ⟨some (.error why, cut), .cut why cut ha hs, ?_⟩
        simp [under, run, hg, ha, hb, hs, Outcome.after]
      | false =>
        refine ⟨none, .waiting (by simpa [ha] using hs), ?_⟩
        simp [under, run, hg, ha, hb, hs]
    | some r =>
      obtain ⟨h1, h2⟩ := run_seen body hn hb
      rw [isSeen_nearer, Bool.and_eq_true, decide_eq_true_eq] at h2
      refine ⟨some (.ok r.1, r.2), .done r.1 r.2 h1 h2.1 (by simpa [ha] using h2.2), ?_⟩
      simp [under, run, hg, ha, hb, Outcome.after]

/-- A part with a deadline that nobody cancels does as much as it can do by then. -/
theorem run_under_of_deadline (ms : Nat) (body : Timed ε σ β) (t : Tick) (s : σ) :
    (under ⟨none, some ms⟩ body).run none t s =
      let deadline := t + Tick.ofMillis ms
      let o := body.run (some deadline) t s
      ⟨some ((o.finished.map fun r => (.ok r.1, r.2)).getD (.error .expired, deadline)), o.state,
        o.events⟩ := by
  have ha : (⟨none, some ms⟩ : Guard).alarm t = some (.expired, t + Tick.ofMillis ms) := rfl
  have hn (d : Tick) : nearer none (Interruption.expired.lastTick d) = d := rfl
  rw [under, run, ha]
  simp only [Guard.isCancelled, Option.any_none, hn, Bool.false_eq_true, if_false, isSeen_none,
    if_true]
  cases (body.run (some (t + Tick.ofMillis ms)) t s).finished with
  | none => simp [run, Outcome.after]
  | some r => simp [run, Outcome.after]

/-- A program on a part of a state runs as on that part alone. -/
theorem run_zoom (get : σ → τ) (put : τ → σ → σ) (get_put : ∀ t s, get (put t s) = t)
    (put_get : ∀ s, put (get s) s = s) (put_put : ∀ t t' s, put t' (put t s) = put t' s)
    (x : Timed ε τ α) (horizon : Option Tick) (t : Tick) (s : σ) :
    (x.zoom get put).run horizon t s =
      ⟨(x.run horizon t (get s)).finished, put (x.run horizon t (get s)).state s,
        (x.run horizon t (get s)).events⟩ := by
  induction x generalizing horizon t s with
  | done a => simp [zoom, run, put_get]
  | step act next ih => simp only [zoom, run, ih, get_put, put_put]
  | emit e next ih => simp only [zoom, run, ih, Outcome.after]
  | wait ms next ih =>
    simp only [zoom, run]
    split
    · exact ih _ _ _
    · simp [put_get]
  | never => simp [zoom, run, put_get]
  | guarded g body next ihb ihn =>
    simp only [zoom, run]
    split
    · exact ihn _ _ _ _
    split
    · rw [ihb]
      simp only [Outcome.andThen]
      split <;> simp only [ihn, get_put, put_put, Outcome.after]
    · rename_i why cut _
      rw [ihb]
      generalize body.run (some (nearer horizon (why.lastTick cut))) t (get s) = o
      obtain ⟨_ | ⟨b, u⟩, s', es⟩ := o
      · simp only
        split <;> simp only [ihn, get_put, put_put, Outcome.after]
      · simp only [ihn, get_put, put_put, Outcome.after]
  | exclusive body next ihb ihn =>
    simp only [zoom, run, ihb, Outcome.andThen]
    split <;> simp only [ihn, get_put, put_put, Outcome.after]

end Timed

namespace Context

/-- Work within a context that is cancelled when it starts is not done. -/
theorem run_within_of_isCancelled {ctx : Context} {t : Tick} (hc : ctx.isCancelled t = true)
    (body : Timed ε σ (Except Failure α)) (horizon : Option Tick) (s : σ) :
    (ctx.within body).run horizon t s = ⟨some (.error .cancelled, t), s, []⟩ := by
  have hg : ctx.guard.isCancelled t = true := hc
  simp [within, Timed.run, hg, settle, failure]

/-- Work within a context is done as by itself before a horizon up to which nothing is
cancelled. -/
theorem run_within {ctx : Context} {horizon : Option Tick} {t : Tick}
    (hc : ctx.isCancelled t = false) (ht : Timed.isSeen horizon t = true)
    (body : Timed ε σ (Except Failure α)) (s : σ) :
    ∃ nearby, Timed.isSeen nearby t = true ∧
      (∀ u, Timed.isSeen nearby u = true →
        Timed.isSeen horizon u = true ∧ ctx.isCancelled u = false) ∧
      ∃ ending, ctx.guard.Ending horizon t (body.run nearby t s).finished ending ∧
        (ctx.within body).run horizon t s =
          ⟨ending.map fun r => (ctx.settle r.1, r.2), (body.run nearby t s).state,
            (body.run nearby t s).events⟩ := by
  obtain ⟨nearby, hn, hu, ending, he, hr⟩ := Timed.run_under (g := ctx.guard) hc ht body s
  refine ⟨nearby, hn, hu, ending, he, ?_⟩
  have hw : ctx.within body = (Timed.under ctx.guard body).bind fun r => .done (ctx.settle r) := rfl
  rw [hw, Timed.run_bind, hr]
  cases ending <;> simp [Timed.Outcome.andThen, Timed.run, Timed.Outcome.after]

/-- Work with a deadline that nobody cancels does as much as it can do by then. -/
theorem run_within_of_timeout (d : Duration) (body : Timed ε σ (Except Failure α)) (t : Tick)
    (s : σ) :
    (({ timeout := some d } : Context).within body).run none t s =
      let deadline := t + Tick.ofMillis d.timerMillis
      let o := body.run (some deadline) t s
      ⟨some (o.finished.getD (.error (.timeout d.wholeMillis), deadline)), o.state, o.events⟩ := by
  have hw : ({ timeout := some d } : Context).within body =
      (Timed.under ⟨none, some d.timerMillis⟩ body).bind fun r =>
        .done (settle { timeout := some d } r) := rfl
  rw [hw, Timed.run_bind, Timed.run_under_of_deadline]
  generalize d.timerMillis = ms
  dsimp only
  generalize body.run (some (t + Tick.ofMillis ms)) t s = o
  obtain ⟨_ | ⟨r, u⟩, s', es⟩ := o
  · simp [Timed.Outcome.andThen_some, Timed.run, settle, failure, Timed.Outcome.after]
  · simp [Timed.Outcome.andThen_some, Timed.run, settle, Timed.Outcome.after]

/-- Work within a context that has no alarm is done as it is by itself. -/
theorem run_within_of_no_alarm {ctx : Context} {t : Tick} (hc : ctx.isCancelled t = false)
    (ha : ctx.guard.alarm t = none) (body : Timed ε σ (Except Failure α)) (horizon : Option Tick)
    (s : σ) : (ctx.within body).run horizon t s = body.run horizon t s := by
  have hc' : ctx.guard.isCancelled t = false := hc
  rw [within, Timed.run, hc', ha]
  simp only [Bool.false_eq_true, if_false]
  generalize body.run horizon t s = o
  obtain ⟨_ | ⟨r, u⟩, s', es⟩ := o
  · rfl
  · simp [Timed.Outcome.andThen, settle, Timed.Outcome.after, Timed.run]

/-- Work that nobody cancels and that has no deadline is done as it is by itself. -/
theorem run_within_of_calm (body : Timed ε σ (Except Failure α)) (t : Tick) (s : σ) :
    (({} : Context).within body).run none t s = body.run none t s :=
  run_within_of_no_alarm rfl rfl body none s

/-- A pause that nobody cancels. -/
theorem run_sleep_of_calm (d : Duration) (t : Tick) (s : σ) :
    (({} : Context).sleep d : Timed ε σ _).run none t s =
      ⟨some (.ok (), t + Tick.ofMillis d.timerMillis), s, []⟩ := by
  rw [sleep]
  generalize d.timerMillis = ms
  exact run_within_of_calm _ t s

end Context

/-! ## Programs that end -/

/-- The program ends, whenever and wherever it starts. -/
def Timed.Ends (x : Timed ε σ α) : Prop := ∀ t s, ∃ a u, (x.run none t s).finished = some (a, u)

namespace Timed.Ends

variable {x : Timed ε σ α}

theorem done (a : α) : (Timed.done a : Timed ε σ α).Ends := fun t _ => ⟨a, t, rfl⟩

theorem bind {f : α → Timed ε σ β} (hx : x.Ends) (hf : ∀ a, (f a).Ends) : (x.bind f).Ends := by
  intro t s
  obtain ⟨a, u, h⟩ := hx t s
  obtain ⟨b, v, h'⟩ := hf a u (x.run none t s).state
  exact ⟨b, v, by simp [run_bind, Outcome.andThen, h, h', Outcome.after]⟩

theorem step {act : σ → β × σ} {next : β → Timed ε σ α} (h : ∀ b, (next b).Ends) :
    (Timed.step act next).Ends := fun t _ => h _ t _

theorem emit (e : ε) (h : x.Ends) : (Timed.emit e x).Ends := fun t s => h t s

theorem wait (ms : Nat) (h : x.Ends) : (Timed.wait ms x).Ends := fun _ s => h _ s

theorem alone (h : x.Ends) : (Timed.alone x).Ends := by
  intro t s
  rw [run_alone]
  exact h t s

theorem zoom {get : σ → τ} {put : τ → σ → σ} (get_put : ∀ t s, get (put t s) = t)
    (put_get : ∀ s, put (get s) s = s) (put_put : ∀ t t' s, put t' (put t s) = put t' s)
    {x : Timed ε τ α} (h : x.Ends) : (x.zoom get put).Ends := by
  intro t s
  rw [run_zoom get put get_put put_get put_put]
  exact h t (get s)

end Timed.Ends

namespace Context

/-- Work ends within a context if it does so by itself. -/
theorem ends_within (ctx : Context) {body : Timed ε σ (Except Failure α)} (h : body.Ends) :
    (ctx.within body).Ends := by
  intro t s
  simp only [within, Timed.run]
  split
  · exact ⟨_, _, rfl⟩
  split
  · obtain ⟨r, u, hr⟩ := h t s
    exact ⟨ctx.settle (.ok r), u, by simp [Timed.Outcome.andThen, hr, Timed.Outcome.after]⟩
  · split
    · exact ⟨_, _, rfl⟩
    · exact ⟨_, _, rfl⟩

/-- Work with a deadline ends. -/
theorem ends_within_of_timeout {ctx : Context} {d : Duration} (hd : ctx.timeout = some d)
    (body : Timed ε σ (Except Failure α)) : (ctx.within body).Ends := by
  intro t s
  simp only [within, Timed.run]
  split
  · exact ⟨_, _, rfl⟩
  split
  · rename_i ha
    have hg : ctx.guard.timeoutMs = some d.timerMillis := by simp [guard, hd]
    exact absurd ha (Guard.alarm_ne_none hg t)
  · split
    · exact ⟨_, _, rfl⟩
    · exact ⟨_, _, rfl⟩

end Context

/-! ## Calls -/

/-- What follows a call goes on where it succeeded. -/
theorem Call.run_bind (x : Call σ α) (f : α → Call σ β) (horizon : Option Tick) (t : Tick)
    (s : σ) :
    (x >>= f).run.run horizon t s = (x.run.run horizon t s).andThen fun r u s =>
      match r with
      | .ok a => (f a).run.run horizon u s
      | .error e => ⟨some (.error e, u), s, []⟩ := by
  rw [ExceptT.run_bind, Timed.bind_eq_bind, Timed.run_bind]
  congr 1
  funext r u s
  cases r <;> rfl

/-- A call that goes on with its answer. -/
theorem Call.bind_answer (x : Call σ α) : (x >>= fun a => ExceptT.mk (.done (.ok a))) = x := by
  have unchanged : (ExceptT.bindCont fun a => ExceptT.mk (.done (.ok a)) :
      Except Failure α → Timed Event σ (Except Failure α)) = .done := by
    funext r
    cases r <;> rfl
  show Timed.bind (ExceptT.run x) (ExceptT.bindCont _) = x
  rw [unchanged, Timed.bind_with_done]
  rfl

theorem Call.run_mk_done (r : Except Failure α) (horizon : Option Tick) (t : Tick) (s : σ) :
    (ExceptT.mk (Timed.done r) : Call σ α).run.run horizon t s = ⟨some (r, t), s, []⟩ := rfl

/-- An operation that tells how it ended runs as it does by itself. -/
theorem run_observed (component operation : String) (x : Call σ α) (horizon : Option Tick)
    (t : Tick) (s : σ) :
    (observed component operation x).run.run horizon t s =
      (x.run.run horizon t s).andThen fun r u s =>
        ⟨some (r, u), s, [.ended component operation (outcomeLabel r)]⟩ := by
  rw [observed, ExceptT.run_mk, Timed.bind_eq_bind, Timed.run_bind]
  rfl

/-- It answers what it answers by itself. -/
theorem finished_observed (component operation : String) (x : Call σ α) (horizon : Option Tick)
    (t : Tick) (s : σ) :
    ((observed component operation x).run.run horizon t s).finished =
      (x.run.run horizon t s).finished := by
  rw [run_observed]
  generalize x.run.run horizon t s = o
  obtain ⟨_ | ⟨r, u⟩, s', es⟩ := o <;> rfl

end KvBridge
