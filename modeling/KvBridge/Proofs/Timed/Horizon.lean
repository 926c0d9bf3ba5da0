import KvBridge.Proofs.Timed.Run

/-!
# Looking at a run for longer

A run that ends before a horizon ends in the same way before every later one, and a run that does
not ends beyond it if it ends at all (`Timed.run_outlasts`). So what a part with a deadline has done
by then is told by a run of it that is looked at up to the deadline.

* `Timed.Outcome.Outlasts`: the two outcomes;
* `Guard.alarm_le`: an alarm comes no later than the deadline of its guard.
-/

namespace KvBridge

variable {ε σ α β : Type}

theorem Interruption.lastTick_le (why : Interruption) (cut : Tick) : why.lastTick cut ≤ cut := by
  cases why with
  | cancelled => exact Nat.sub_le cut 1
  | expired => exact Nat.le_refl cut

namespace Timed

theorem isSeen_of_le {horizon : Option Tick} {t u : Tick} (h : t ≤ u)
    (hu : isSeen horizon u = true) : isSeen horizon t = true := by
  cases horizon with
  | none => rfl
  | some n =>
    rw [isSeen_some, decide_eq_true_eq] at hu ⊢
    exact Nat.le_trans h hu

theorem isSeen_eq_false_of_le {horizon : Option Tick} {t u : Tick} (h : t ≤ u)
    (ht : isSeen horizon t = false) : isSeen horizon u = false := by
  cases hu : isSeen horizon u with
  | false => rfl
  | true => rw [isSeen_of_le h hu] at ht; cases ht

/-- What becomes of an outcome before a horizon when the run is looked at for longer: if it had
ended it stays the same, and else it ends only beyond the horizon. -/
inductive Outcome.Outlasts (near : Option Tick) (o : Outcome ε σ α) : Outcome ε σ α → Prop
  | ended {o' : Outcome ε σ α} (r : α × Tick) (h : o.finished = some r) (same : o' = o) :
    Outlasts near o o'
  | later {o' : Outcome ε σ α} (h : o.finished = none)
    (late : ∀ a u, o'.finished = some (a, u) → isSeen near u = false) : Outlasts near o o'

namespace Outcome.Outlasts

variable {near : Option Tick} {o o' : Outcome ε σ α}

theorem after (es : List ε) (h : o.Outlasts near o') :
    (o.after es).Outlasts near (o'.after es) := by
  cases h with
  | ended r h same => exact .ended r h (congrArg (Outcome.after · es) same)
  | later h late => exact .later h late

/-- What follows a run, where it does not end before it starts. -/
theorem andThen {f f' : α → Tick → σ → Outcome ε σ β} (h : o.Outlasts near o')
    (hf : ∀ a u, o.finished = some (a, u) → ∀ s, (f a u s).Outlasts near (f' a u s))
    (hl : ∀ a u, o'.finished = some (a, u) → ∀ s b v, (f' a u s).finished = some (b, v) → u ≤ v) :
    (o.andThen f).Outlasts near (o'.andThen f') := by
  cases h with
  | ended r h same =>
    subst same
    obtain ⟨finished, s, es⟩ := o'
    cases h
    exact (hf r.1 r.2 rfl s).after es
  | later h late =>
    obtain ⟨finished, s, es⟩ := o
    cases h
    refine .later rfl fun b v hb => ?_
    obtain ⟨_ | ⟨a, u⟩, s', es'⟩ := o'
    · cases hb
    · exact isSeen_eq_false_of_le (hl a u rfl s' b v hb) (late a u rfl)

end Outcome.Outlasts

/-- A horizon beyond a tick does not matter for what ends by the tick. -/
theorem nearer_of_isSeen {horizon : Option Tick} {c : Tick} (h : isSeen horizon c = true) :
    nearer horizon c = c := by
  cases horizon with
  | none => rfl
  | some n =>
    rw [isSeen_some, decide_eq_true_eq] at h
    show min c n = c
    exact Nat.min_eq_left h

/-- Whether a part ends before its alarm or is cut short by it, a later horizon shows the same. -/
theorem under_outlasts (g : Guard) {body : Timed ε σ β}
    (hb : ∀ {near far : Option Tick} {t : Tick}, (∀ u, isSeen near u = true → isSeen far u = true) →
      isSeen near t = true → ∀ s, (body.run near t s).Outlasts near (body.run far t s))
    {near far : Option Tick} (hf : ∀ u, isSeen near u = true → isSeen far u = true) {t : Tick}
    (ht : isSeen near t = true) (s : σ) :
    ((under g body).run near t s).Outlasts near ((under g body).run far t s) := by
  simp only [under, run]
  split
  · exact .ended _ rfl rfl
  rename_i hg
  split
  · refine (hb hf ht s).andThen (fun b u _ s => .ended _ rfl rfl) ?_
    rintro b u _ s _ _ ⟨⟩
    exact Nat.le_refl u
  rename_i why cut ha
  obtain ⟨hl, -⟩ := Guard.alarm_spec (Bool.eq_false_iff.2 hg) ha
  have hle := why.lastTick_le cut
  cases hc : isSeen near cut with
  | true =>
    -- Both horizons are beyond the alarm, so the body runs up to the same tick.
    rw [nearer_of_isSeen (isSeen_of_le hle hc), nearer_of_isSeen (isSeen_of_le hle (hf _ hc))]
    rw [if_pos rfl, if_pos (hf _ hc)]
    split
    · exact .ended _ rfl rfl
    · exact .ended _ rfl rfl
  | false =>
    have hn : isSeen (some (nearer near (why.lastTick cut))) t = true := by
      rw [isSeen_nearer, ht, decide_eq_true hl, Bool.and_self]
    have hfn u (hu : isSeen (some (nearer near (why.lastTick cut))) u = true) :
        isSeen (some (nearer far (why.lastTick cut))) u = true := by
      rw [isSeen_nearer, Bool.and_eq_true] at hu ⊢
      exact hu.imp_left (hf u)
    have hseen b u := run_seen (s := s) body (hfn t hn) (a := b) (u := u)
    obtain ⟨r, h, same⟩ | ⟨h, late⟩ := hb hfn hn s
    · simp only [same, h]
      exact .ended _ rfl rfl
    · simp only [h]
      refine .later rfl fun r u hu => ?_
      split at hu
      · rename_i b _ hb
        cases hu
        have hl := late b u hb
        have hs := (hseen b u hb).2
        rw [isSeen_nearer, Bool.and_eq_true] at hs
        rwa [isSeen_nearer, hs.2, Bool.and_true] at hl
      · split at hu
        · cases hu
          exact hc
        · cases hu

/-- A run that ends before a horizon ends so before every later one, and a run that does not ends
beyond it if it ends at all. -/
theorem run_outlasts (x : Timed ε σ α) {near far : Option Tick}
    (hf : ∀ u, isSeen near u = true → isSeen far u = true) {t : Tick}
    (ht : isSeen near t = true) (s : σ) : (x.run near t s).Outlasts near (x.run far t s) := by
  induction x generalizing near far t s with
  | done a => exact .ended (a, t) rfl rfl
  | step act next ih => exact ih _ hf ht _
  | emit e next ih => exact (ih hf ht s).after [e]
  | wait ms next ih =>
    simp only [run]
    cases hw : isSeen near (t + Tick.ofMillis ms) with
    | true =>
      rw [if_pos rfl, if_pos (hf _ hw)]
      exact ih hf hw s
    | false =>
      refine .later rfl fun a u hu => isSeen_eq_false_of_le ?_ hw
      split at hu
      · exact (run_seen next ‹_› hu).1
      · cases hu
  | never =>
    refine .later rfl fun a u hu => ?_
    cases hu
  | guarded g body next ihb ihn =>
    rw [show Timed.guarded g body next = (under g body).bind next from rfl, run_bind, run_bind]
    exact (under_outlasts g (fun hf ht => ihb hf ht) hf ht s).andThen
      (fun r u hr s => ihn r hf (run_seen (under g body) ht hr).2 s)
      fun r u hr s _ _ h => (run_seen (next r) (run_seen (under g body) (hf t ht) hr).2 h).1
  | exclusive body next ihb ihn =>
    simp only [run]
    exact (ihb hf ht s).andThen (fun b u hb s => ihn b hf (run_seen body ht hb).2 s)
      fun b u hb s _ _ h => (run_seen (next b) (run_seen body (hf t ht) hb).2 h).1

end Timed

/-! ## Alarms -/

theorem Interruption.le_of_lastTick_lt {why : Interruption} {cut t : Tick}
    (h : why.lastTick cut < t) : cut ≤ t := by
  cases why with
  | cancelled => exact Nat.le_of_pred_lt h
  | expired => exact Nat.le_of_lt h

/-- An alarm comes no later than the deadline of its guard, and at the deadline if it is its end. -/
theorem Guard.alarm_le {g : Guard} {ms : Nat} (hg : g.timeoutMs = some ms) {t cut : Tick}
    {why : Interruption} (h : g.alarm t = some (why, cut)) :
    cut ≤ t + Tick.ofMillis ms ∧ (why = .expired → cut = t + Tick.ofMillis ms) := by
  obtain ⟨c, _⟩ := g
  cases hg
  cases c with
  | none =>
    cases h
    exact ⟨Nat.le_refl _, fun _ => rfl⟩
  | some c =>
    simp only [alarm, Option.map_some] at h
    split at h
    · rename_i hc
      cases h
      refine ⟨hc, fun he => ?_⟩
      cases he
    · cases h
      exact ⟨Nat.le_refl _, fun _ => rfl⟩

/-- What is cancelled stays so. -/
theorem Guard.isCancelled_of_le {g : Guard} {t u : Tick} (h : t ≤ u)
    (ht : g.isCancelled t = true) : g.isCancelled u = true := by
  rw [isCancelled, Option.any_eq_true] at ht ⊢
  obtain ⟨c, hc, ht⟩ := ht
  rw [decide_eq_true_eq] at ht
  exact ⟨c, hc, decide_eq_true (Nat.le_trans ht h)⟩

theorem Context.isCancelled_of_le {ctx : Context} {t u : Tick} (h : t ≤ u)
    (ht : ctx.isCancelled t = true) : ctx.isCancelled u = true :=
  Guard.isCancelled_of_le (g := ctx.guard) h ht

end KvBridge
