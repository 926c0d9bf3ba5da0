import KvBridge.Proofs.Timed.Run

/-!
# What runs that may be cut short keep to

`Timed.Triple pre x inv post`: a run of `x` from a state with `pre` leaves one with `inv` wherever
it is cut short, and one with `post` when it ends. There is one lemma for each way to put programs
together. A part within a context counts as cut short when its deadline comes or it is cancelled,
so only a part that succeeds is known to have come to its end (`Timed.Triple.within`).
-/

namespace KvBridge

variable {ε σ τ α β : Type}

namespace Timed

/-- From `pre` the program leaves `inv` wherever it is cut short, and `post` when it ends. -/
def Triple (pre : σ → Prop) (x : Timed ε σ α) (inv : σ → Prop) (post : α → σ → Prop) : Prop :=
  ∀ horizon t s, pre s → inv (x.run horizon t s).state ∧
    ∀ a u, (x.run horizon t s).finished = some (a, u) → post a (x.run horizon t s).state

namespace Triple

variable {pre inv : σ → Prop} {x : Timed ε σ α} {mid : α → σ → Prop} {post : β → σ → Prop}

theorem mono {pre' inv' : σ → Prop} {post post' : α → σ → Prop} (h : Triple pre x inv post)
    (hpre : ∀ s, pre' s → pre s) (hinv : ∀ s, inv s → inv' s)
    (hpost : ∀ a s, post a s → post' a s) : Triple pre' x inv' post' :=
  fun horizon t s hs => (h horizon t s (hpre s hs)).imp (hinv _) fun hp a u ha =>
    hpost _ _ (hp a u ha)

theorem done {post : α → σ → Prop} (a : α) (hinv : ∀ s, pre s → inv s)
    (hpost : ∀ s, pre s → post a s) : Triple pre (.done a : Timed ε σ α) inv post := by
  refine fun horizon t s hs => ⟨hinv s hs, ?_⟩
  rintro _ _ ⟨⟩
  exact hpost s hs

/-- Ending changes nothing. -/
theorem done_self (a : α) (inv : σ → Prop) :
    Triple inv (.done a : Timed ε σ α) inv fun _ => inv := .done a (fun _ h => h) fun _ h => h

theorem act {f : σ → α × σ} {post : α → σ → Prop} (hinv : ∀ s, pre s → inv (f s).2)
    (hpost : ∀ s, pre s → post (f s).1 (f s).2) :
    Triple pre (.act f : Timed ε σ α) inv post := by
  refine fun horizon t s hs => ⟨hinv s hs, ?_⟩
  rintro _ _ ⟨⟩
  exact hpost s hs

theorem bind {f : α → Timed ε σ β} (hx : Triple pre x inv mid)
    (hf : ∀ a, Triple (mid a) (f a) inv post) : Triple pre (x.bind f) inv post := by
  intro horizon t s hs
  obtain ⟨hinv, hmid⟩ := hx horizon t s hs
  rw [run_bind]
  generalize x.run horizon t s = o at *
  obtain ⟨_ | ⟨a, u⟩, s', es⟩ := o
  · exact ⟨hinv, nofun⟩
  · exact hf a horizon u s' (hmid a u rfl)

theorem emit {post : α → σ → Prop} (e : ε) (hx : Triple pre x inv post) :
    Triple pre (.emit e x) inv post := hx

theorem tell (e : ε) (h : ∀ s, pre s → inv s) :
    Triple pre (.tell e : Timed ε σ Unit) inv fun _ => pre := .emit e (.done () h fun _ hs => hs)

theorem wait {post : α → σ → Prop} (ms : Nat) (h : ∀ s, pre s → inv s)
    (hx : Triple pre x inv post) : Triple pre (.wait ms x) inv post := by
  intro horizon t s hs
  simp only [run]
  split
  · exact hx _ _ _ hs
  · exact ⟨h s hs, fun _ _ h => by cases h⟩

theorem alone {post : α → σ → Prop} (hx : Triple pre x inv post) :
    Triple pre (Timed.alone x) inv post := by
  intro horizon t s hs
  rw [run_alone]
  exact hx horizon t s hs

theorem zoom {get : σ → τ} {put : τ → σ → σ} {x : Timed ε τ α} {post : α → σ → Prop}
    (get_put : ∀ t s, get (put t s) = t) (put_get : ∀ s, put (get s) s = s)
    (put_put : ∀ t t' s, put t' (put t s) = put t' s)
    (hx : ∀ s, pre s →
      Triple (· = get s) x (fun r => inv (put r s)) fun a r => post a (put r s)) :
    Triple pre (x.zoom get put) inv post := by
  intro horizon t s hs
  rw [run_zoom get put get_put put_get put_put]
  exact hx s hs horizon t (get s) rfl

/-- A part under a guard that is not cut short has come to its end. -/
theorem under (g : Guard) {post : α → σ → Prop} (h : ∀ s, pre s → inv s)
    (hx : Triple pre x inv post) :
    Triple pre (Timed.under g x) inv fun r s => inv s ∧ ∀ a, r = .ok a → post a s := by
  intro horizon t s hs
  simp only [Timed.under, run]
  split
  · refine ⟨h s hs, ?_⟩
    rintro _ _ ⟨⟩
    exact ⟨h s hs, fun _ h => by cases h⟩
  have hbody (nearby : Option Tick) (a : α) (u : Tick)
      (ha : (x.run nearby t s).finished = some (a, u)) (b : α)
      (hb : (Except.ok a : Except Interruption α) = .ok b) : post b (x.run nearby t s).state := by
    cases hb
    exact (hx nearby t s hs).2 a u ha
  split
  · have hi := (hx horizon t s hs).1
    have hb := hbody horizon
    generalize x.run horizon t s = o at *
    obtain ⟨_ | ⟨a, u⟩, s', es⟩ := o
    · exact ⟨hi, fun _ _ h => by cases h⟩
    · refine ⟨hi, ?_⟩
      rintro _ _ ⟨⟩
      exact ⟨hi, hb a u rfl⟩
  · rename_i why cut _
    have hi := (hx (some (nearer horizon (why.lastTick cut))) t s hs).1
    have hb := hbody (some (nearer horizon (why.lastTick cut)))
    generalize x.run (some (nearer horizon (why.lastTick cut))) t s = o at *
    obtain ⟨_ | ⟨a, u⟩, s', es⟩ := o
    · simp only
      split
      · refine ⟨hi, ?_⟩
        rintro _ _ ⟨⟩
        exact ⟨hi, fun _ h => by cases h⟩
      · exact ⟨hi, fun _ _ h => by cases h⟩
    · refine ⟨hi, ?_⟩
      rintro _ _ ⟨⟩
      exact ⟨hi, hb a u rfl⟩

/-- Work within a context that succeeds has come to its end. -/
theorem within (ctx : Context) {x : Timed ε σ (Except Failure α)} {post : α → σ → Prop}
    (h : ∀ s, pre s → inv s) (hx : Triple pre x inv fun r s => ∀ a, r = .ok a → post a s) :
    Triple pre (ctx.within x) inv fun r s => inv s ∧ ∀ a, r = .ok a → post a s := by
  refine bind (f := fun r => .done (ctx.settle r)) (under ctx.guard h hx) fun r => ?_
  refine .done _ (fun _ hs => hs.1) fun s hs => ⟨hs.1, fun a ha => ?_⟩
  cases r with
  | error why => cases ha
  | ok r => exact hs.2 r rfl a ha

/-- Work within a context answers what it answers by itself, or that it was cut short. -/
theorem within_answer (ctx : Context) {x : Timed ε σ (Except Failure α)}
    {P : Except Failure α → Prop} (h : ∀ s, pre s → inv s) (hx : Triple pre x inv fun r _ => P r)
    (hcut : ∀ why, P (.error (ctx.failure why))) :
    Triple pre (ctx.within x) inv fun r _ => P r := by
  refine bind (f := fun r => .done (ctx.settle r)) (under ctx.guard h hx) fun r => ?_
  refine .done _ (fun _ hs => hs.1) fun s hs => ?_
  cases r with
  | error why => exact hcut why
  | ok r => exact hs.2 r rfl

/-- A pause changes nothing. -/
theorem sleep (ctx : Context) (d : Duration) (inv : σ → Prop) :
    Triple inv (ctx.sleep d : Timed ε σ (Except Failure Unit)) inv fun _ => inv :=
  have wait : Triple inv (.wait d.timerMillis (.done (.ok ())) : Timed ε σ (Except Failure Unit))
      inv fun r _ => ∀ a, r = .ok a → True :=
    .wait _ (fun _ h => h) (.done _ (fun _ h => h) fun _ _ _ _ => trivial)
  (within { ctx with timeout := none } (fun _ h => h) wait).mono
    (fun _ h => h) (fun _ h => h) fun _ _ h => h.1

end Triple

end Timed

end KvBridge
