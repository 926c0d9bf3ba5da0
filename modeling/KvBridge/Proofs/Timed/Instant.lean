import KvBridge.Proofs.Timed.Run

/-!
# Programs that take no time

A program that neither waits nor is cut short settles: whatever the horizon and the tick, it ends
at the tick at which it starts, in the same way. `Timed.Settles` says how, and has one lemma for
each way to put programs together; a guard that cancels nothing changes nothing, for a part that
takes no time ends before any deadline.
-/

namespace KvBridge

variable {ε σ τ α β : Type}

namespace Timed

/-- Started in a state, the program ends at once with an answer, leaves a state and tells of
events. -/
def Settles (x : Timed ε σ α) (s : σ) (a : α) (s' : σ) (es : List ε) : Prop :=
  ∀ horizon t, x.run horizon t s = ⟨some (a, t), s', es⟩

namespace Settles

variable {x : Timed ε σ α} {s s₁ s₂ : σ} {a : α} {b : β} {es fs : List ε}

theorem done (a : α) (s : σ) : (Timed.done a : Timed ε σ α).Settles s a s [] := fun _ _ => rfl

theorem tell (e : ε) (s : σ) : (Timed.tell e : Timed ε σ Unit).Settles s () s [e] := fun _ _ => rfl

theorem act (f : σ → β × σ) (s : σ) : (Timed.act f : Timed ε σ β).Settles s (f s).1 (f s).2 [] :=
  fun _ _ => rfl

theorem look (f : σ → β) (s : σ) : (Timed.look f : Timed ε σ β).Settles s (f s) s [] :=
  fun _ _ => rfl

theorem change (f : σ → σ) (s : σ) : (Timed.change f : Timed ε σ Unit).Settles s () (f s) [] :=
  fun _ _ => rfl

theorem bind {f : α → Timed ε σ β} (hx : x.Settles s a s₁ es) (hf : (f a).Settles s₁ b s₂ fs) :
    (x.bind f).Settles s b s₂ (es ++ fs) := by
  intro horizon t
  rw [run_bind, hx]
  simp [Outcome.andThen, hf horizon t, Outcome.after]

/-- A part that cannot fail. -/
theorem lift {θ : Type} (hx : x.Settles s a s₁ es) :
    (ExceptT.lift x : ExceptT θ (Timed ε σ) α).run.Settles s (.ok a) s₁ es := by
  have h := hx.bind (f := fun a => .done (Except.ok (ε := θ) a)) (.done _ _)
  rwa [List.append_nil] at h

/-- What follows a part that succeeds. -/
theorem bind_ok {θ : Type} {x : ExceptT θ (Timed ε σ) α} {f : α → ExceptT θ (Timed ε σ) β}
    {r : Except θ β} (hx : x.run.Settles s (.ok a) s₁ es) (hf : (f a).run.Settles s₁ r s₂ fs) :
    (x >>= f).run.Settles s r s₂ (es ++ fs) :=
  bind (f := ExceptT.bindCont f) hx hf

/-- What follows a part that fails is not done. -/
theorem bind_error {θ : Type} {x : ExceptT θ (Timed ε σ) α} {f : α → ExceptT θ (Timed ε σ) β}
    {e : θ} (hx : x.run.Settles s (.error e) s₁ es) :
    (x >>= f).run.Settles s (.error e) s₁ es := by
  have h := bind (f := ExceptT.bindCont f) hx (.done _ _)
  rwa [List.append_nil] at h

theorem emit (e : ε) (hx : x.Settles s a s₁ es) : (Timed.emit e x).Settles s a s₁ (e :: es) := by
  intro horizon t
  simp [run, hx horizon t, Outcome.after]

theorem alone (hx : x.Settles s a s₁ es) : (Timed.alone x).Settles s a s₁ es := by
  intro horizon t
  rw [run_alone, hx horizon t]

theorem zoom {get : σ → τ} {put : τ → σ → σ} {x : Timed ε τ α} {r r₁ : τ}
    (get_put : ∀ t s, get (put t s) = t) (put_get : ∀ s, put (get s) s = s)
    (put_put : ∀ t t' s, put t' (put t s) = put t' s) (hx : x.Settles r a r₁ es)
    (hr : get s = r) : (x.zoom get put).Settles s a (put r₁ s) es := by
  intro horizon t
  rw [run_zoom get put get_put put_get put_put, hr, hx]

/-- A deadline, however near, does not cut short what takes no time. -/
theorem under {g : Guard} (hg : g.cancelledAt = none) (hx : x.Settles s a s₁ es) :
    (Timed.under g x).Settles s (.ok a) s₁ es := by
  intro horizon t
  have hc : g.isCancelled t = false := by simp [Guard.isCancelled, hg]
  simp only [Timed.under, run, hc, Bool.false_eq_true, if_false]
  split
  · simp [hx horizon t, Outcome.andThen, Outcome.after]
  · simp [hx _ t, Outcome.after]

end Settles

end Timed

/-- Work within a context that nobody cancels. -/
theorem Context.settles_within {ctx : Context} (hc : ctx.cancelledAt = none)
    {body : Timed ε σ (Except Failure α)} {r : Except Failure α} {s s' : σ} {es : List ε}
    (hb : body.Settles s r s' es) : (ctx.within body).Settles s r s' es := by
  have h := (hb.under (g := ctx.guard) hc).bind (f := fun r => .done (ctx.settle r)) (.done _ _)
  rwa [List.append_nil] at h

/-! ## Calls -/

namespace Call

variable {x : Call σ α} {f : α → Call σ β} {s s₁ s₂ : σ} {a : α}
  {r : Except Failure β} {es fs : List Event}

/-- A call settles: its program does. -/
abbrev Settles (x : Call σ α) (s : σ) (r : Except Failure α) (s' : σ) (es : List Event) : Prop :=
  Timed.Settles (ExceptT.run x) s r s' es

theorem Settles.pure (a : α) (s : σ) : Settles (Pure.pure a : Call σ α) s (.ok a) s [] :=
  Timed.Settles.done _ _

theorem Settles.throw (e : Failure) (s : σ) :
    Settles (MonadExcept.throw e : Call σ α) s (.error e) s [] := Timed.Settles.done _ _

theorem Settles.bind_ok (hx : Settles x s (.ok a) s₁ es) (hf : Settles (f a) s₁ r s₂ fs) :
    Settles (x >>= f) s r s₂ (es ++ fs) :=
  Timed.Settles.bind_ok hx hf

/-- What follows a call that fails is not done. -/
theorem Settles.bind_error {e : Failure} (hx : Settles x s (.error e) s₁ es) :
    Settles (x >>= f) s (.error e) s₁ es :=
  Timed.Settles.bind_error hx

/-- What follows a call that settles runs from where that has come. -/
theorem Settles.run_bind (hx : Settles x s (.ok a) s₁ es) (f : α → Call σ β)
    (horizon : Option Tick) (t : Tick) :
    (x >>= f).run.run horizon t s = ((f a).run.run horizon t s₁).after es := by
  rw [Call.run_bind, hx, Timed.Outcome.andThen_some]

/-- The same within an operation that tells how it ended. -/
theorem Settles.run_observed_bind (hx : Settles x s (.ok a) s₁ []) (f : α → Call σ β)
    (component operation : String) (horizon : Option Tick) (t : Tick) :
    (KvBridge.observed component operation (x >>= f)).run.run horizon t s =
      (KvBridge.observed component operation (f a)).run.run horizon t s₁ := by
  rw [run_observed, hx.run_bind, Timed.Outcome.after_nil, ← run_observed]

theorem Settles.observed {x : Call σ α} {r : Except Failure α} (component operation : String)
    (hx : Settles x s r s₁ es) :
    Settles (observed component operation x) s r s₁
      (es ++ [.ended component operation (outcomeLabel r)]) :=
  Timed.Settles.bind hx (.bind (.tell _ _) (.done _ _))

end Call

end KvBridge
