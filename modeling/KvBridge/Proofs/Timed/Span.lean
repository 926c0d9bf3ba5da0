import KvBridge.Proofs.Timed.Horizon

/-!
# How long a program takes

`Timed.EndsWithin x ms`: whenever and wherever `x` starts, it ends, no later than `ms` milliseconds
after. The times of parts that follow each other add up (`Timed.EndsWithin.bind`), and a guard never
makes a part take longer (`Timed.EndsWithin.under`): where its alarm comes before the part has
ended, the part would have ended later still.
-/

namespace KvBridge

variable {ε σ α β : Type}

namespace Timed

/-- The program ends within so many milliseconds, whenever and wherever it starts. -/
def EndsWithin (x : Timed ε σ α) (ms : Nat) : Prop :=
  ∀ t s, ∃ a u, (x.run none t s).finished = some (a, u) ∧ u ≤ t + Tick.ofMillis ms

namespace EndsWithin

variable {x : Timed ε σ α} {m n : Nat}

theorem done (a : α) (n : Nat) : (Timed.done a : Timed ε σ α).EndsWithin n :=
  fun t _ => ⟨a, t, rfl, Nat.le_add_right t _⟩

theorem emit (e : ε) (h : x.EndsWithin n) : (Timed.emit e x).EndsWithin n := fun t s => h t s

theorem wait (ms : Nat) (h : x.EndsWithin n) : (Timed.wait ms x).EndsWithin (ms + n) := by
  intro t s
  obtain ⟨a, u, hx, hu⟩ := h (t + Tick.ofMillis ms) s
  refine ⟨a, u, hx, ?_⟩
  unfold Tick Tick.ofMillis at *
  omega

/-- The times of two parts add up. -/
theorem bind {f : α → Timed ε σ β} (hx : x.EndsWithin m) (hf : ∀ a, (f a).EndsWithin n) :
    (x.bind f).EndsWithin (m + n) := by
  intro t s
  obtain ⟨a, u, ha, hu⟩ := hx t s
  obtain ⟨b, v, hb, hv⟩ := hf a u (x.run none t s).state
  refine ⟨b, v, ?_, ?_⟩
  · rw [run_bind, Outcome.andThen, ha]
    exact hb
  · unfold Tick Tick.ofMillis at *
    omega

/-- A guard does not make a part take longer. -/
theorem under (g : Guard) (h : x.EndsWithin n) : (Timed.under g x).EndsWithin n := by
  intro t s
  obtain ⟨a, u, hx, hu⟩ := h t s
  cases hg : g.isCancelled t with
  | true =>
    rw [run_under_of_isCancelled hg]
    exact ⟨_, t, rfl, Nat.le_add_right t _⟩
  | false =>
    simp only [Timed.under, run, hg, Bool.false_eq_true, if_false]
    cases ha : g.alarm t with
    | none => exact ⟨.ok a, u, by simp only [Outcome.andThen, hx, Outcome.after], hu⟩
    | some alarm =>
      obtain ⟨why, cut⟩ := alarm
      have hn : isSeen (some (why.lastTick cut)) t = true :=
        decide_eq_true (Guard.alarm_spec hg ha).1
      simp only [show nearer none (why.lastTick cut) = why.lastTick cut from rfl, isSeen_none,
        if_true]
      obtain ⟨r, h, same⟩ | ⟨h, late⟩ := run_outlasts x (fun v _ => isSeen_none v) hn s
      · rw [same, h] at hx
        cases hx
        exact ⟨.ok a, u, by simp only [h, Outcome.after], hu⟩
      · -- The alarm cuts `x` short, which would have ended later still.
        have hcut := late a u hx
        rw [isSeen_some, decide_eq_false_iff_not, Nat.not_le] at hcut
        refine ⟨.error why, cut, by simp only [h, Outcome.after], ?_⟩
        exact Nat.le_trans (Interruption.le_of_lastTick_lt hcut) hu

end EndsWithin

end Timed

end KvBridge
