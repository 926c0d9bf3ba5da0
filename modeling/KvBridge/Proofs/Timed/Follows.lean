import KvBridge.Proofs.Timed.Run

/-!
# Programs that do what another one does

A program follows another one (`Timed.Follows`) if it does the same, seen through a view of its
state and with its events retold, but for steps aside that cannot be seen. Its runs then look like
those of the other (`Timed.Follows.run`). This is how something is added to a program that does not
concern it, such as a record of what it has done.
-/

namespace KvBridge.Timed

variable {ε η σ τ ρ π α β : Type} {view : σ → τ} {tell : ε → η}

/-- Seen through a view of its state and with its events retold, the program does what another one
does, but for steps aside that cannot be seen. -/
inductive Follows (view : σ → τ) (tell : ε → η) : {α : Type} → Timed ε σ α → Timed η τ α → Prop
  | done {α : Type} (a : α) : Follows view tell (.done a) (.done a)
  | step {α β γ : Type} {act : σ → β × σ} {act' : τ → γ × τ} (see : β → γ)
    (h : ∀ s, act' (view s) = (see (act s).1, view (act s).2)) {next : β → Timed ε σ α}
    {next' : γ → Timed η τ α} (hn : ∀ b, Follows view tell (next b) (next' (see b))) :
    Follows view tell (.step act next) (.step act' next')
  | aside {α β : Type} {act : σ → β × σ} (h : ∀ s, view (act s).2 = view s)
    {next : β → Timed ε σ α} {y : Timed η τ α} (hn : ∀ b, Follows view tell (next b) y) :
    Follows view tell (.step act next) y
  | emit {α : Type} (e : ε) {x : Timed ε σ α} {y : Timed η τ α} (h : Follows view tell x y) :
    Follows view tell (.emit e x) (.emit (tell e) y)
  | wait {α : Type} (ms : Nat) {x : Timed ε σ α} {y : Timed η τ α} (h : Follows view tell x y) :
    Follows view tell (.wait ms x) (.wait ms y)
  | never {α : Type} : Follows view tell (.never : Timed ε σ α) .never
  | guarded {α β : Type} (g : Guard) {body : Timed ε σ β} {body' : Timed η τ β}
    (hb : Follows view tell body body') {next : Except Interruption β → Timed ε σ α}
    {next' : Except Interruption β → Timed η τ α}
    (hn : ∀ r, Follows view tell (next r) (next' r)) :
    Follows view tell (.guarded g body next) (.guarded g body' next')
  | exclusive {α β : Type} {body : Timed ε σ β} {body' : Timed η τ β}
    (hb : Follows view tell body body') {next : β → Timed ε σ α} {next' : β → Timed η τ α}
    (hn : ∀ b, Follows view tell (next b) (next' b)) :
    Follows view tell (.exclusive body next) (.exclusive body' next')

/-! ## Runs -/

namespace Outcome

/-- The outcome through a view of its state and with its events retold. -/
def seen (view : σ → τ) (tell : ε → η) (o : Outcome ε σ α) : Outcome η τ α :=
  ⟨o.finished, view o.state, o.events.map tell⟩

theorem seen_after (o : Outcome ε σ α) (es : List ε) :
    (o.after es).seen view tell = (o.seen view tell).after (es.map tell) := by
  rw [seen, after, List.map_append]
  rfl

theorem seen_andThen (o : Outcome ε σ α) {f : α → Tick → σ → Outcome ε σ β}
    {f' : α → Tick → τ → Outcome η τ β}
    (h : ∀ a t s, (f a t s).seen view tell = f' a t (view s)) :
    (o.andThen f).seen view tell = (o.seen view tell).andThen f' := by
  obtain ⟨_ | ⟨a, t⟩, s, es⟩ := o
  · rfl
  · have hf : ((f a t s).after es).seen view tell = (f' a t (view s)).after (es.map tell) := by
      rw [seen_after, h]
    exact hf

end Outcome

namespace Follows

variable {x : Timed ε σ α} {y : Timed η τ α}

/-- A run looks like one of the program that is followed. -/
theorem run (h : Follows view tell x y) (horizon : Option Tick) (t : Tick) (s : σ) :
    (x.run horizon t s).seen view tell = y.run horizon t (view s) := by
  induction h generalizing horizon t s with
  | done | never => rfl
  | step see h _ ih =>
    simp only [Timed.run, h]
    exact ih _ _ _ _
  | aside h _ ih =>
    rw [← h s]
    exact ih _ _ _ _
  | emit e _ ih =>
    simp only [Timed.run, Outcome.seen_after, ih]
    rfl
  | wait ms _ ih =>
    simp only [Timed.run]
    split
    · exact ih _ _ _
    · rfl
  | @guarded _ _ g body body' _ next next' _ ihb ihn =>
    simp only [Timed.run]
    split
    · exact ihn _ _ _ _
    split
    · rw [← ihb]
      exact Outcome.seen_andThen _ fun b t s => ihn _ _ _ _
    · rename_i why cut _
      have hb := ihb (some (nearer horizon (why.lastTick cut))) t s
      rw [← hb]
      generalize body.run (some (nearer horizon (why.lastTick cut))) t s = o
      obtain ⟨_ | ⟨b, u⟩, s', es⟩ := o
      · simp only [Outcome.seen]
        split
        · rw [← ihn]
          exact Outcome.seen_after _ es
        · rfl
      · simp only [Outcome.seen, ← ihn]
        exact Outcome.seen_after _ es
  | exclusive _ _ ihb ihn =>
    simp only [Timed.run]
    rw [← ihb]
    exact Outcome.seen_andThen _ fun b t s => ihn _ _ _ _

/-! ## Putting programs together -/

theorem bind {f : α → Timed ε σ β} {f' : α → Timed η τ β} (h : Follows view tell x y)
    (hf : ∀ a, Follows view tell (f a) (f' a)) : Follows view tell (x.bind f) (y.bind f') := by
  induction h with
  | done a => exact hf a
  | step see h _ ih => exact .step see h fun b => ih b hf
  | aside h _ ih => exact .aside h fun b => ih b hf
  | emit e _ ih => exact .emit e (ih hf)
  | wait ms _ ih => exact .wait ms (ih hf)
  | never => exact .never
  | guarded g hb _ _ ih => exact .guarded g hb fun r => ih r hf
  | exclusive hb _ _ ih => exact .exclusive hb fun b => ih b hf

/-- At its end the program may do something that cannot be seen. -/
theorem andAside {f : α → Timed ε σ α} (h : Follows view tell x y)
    (hf : ∀ a, Follows view tell (f a) (.done a)) : Follows view tell (x.bind f) y := by
  induction h with
  | done a => exact hf a
  | step see h _ ih => exact .step see h fun b => ih b hf
  | aside h _ ih => exact .aside h fun b => ih b hf
  | emit e _ ih => exact .emit e (ih hf)
  | wait ms _ ih => exact .wait ms (ih hf)
  | never => exact .never
  | guarded g hb _ _ ih => exact .guarded g hb fun r => ih r hf
  | exclusive hb _ _ ih => exact .exclusive hb fun b => ih b hf

theorem alone (h : Follows view tell x y) : Follows view tell (alone x) (alone y) :=
  .exclusive h .done

theorem within (ctx : Context) {x : Timed ε σ (Except Failure α)}
    {y : Timed η τ (Except Failure α)} (h : Follows view tell x y) :
    Follows view tell (ctx.within x) (ctx.within y) := .guarded ctx.guard h fun _ => .done _

theorem act {f : σ → β × σ} {f' : τ → β × τ}
    (h : ∀ s, f' (view s) = ((f s).1, view (f s).2)) :
    Follows view tell (act f : Timed ε σ β) (act f') := .step id h .done

/-- Programs on parts of the states, by a view of the one part that yields the other. -/
theorem zoom {get : σ → ρ} {put : ρ → σ → σ} {get' : τ → π} {put' : π → τ → τ} {part : ρ → π}
    {x : Timed ε ρ α} {y : Timed η π α} (put_get : ∀ s, put (get s) s = s)
    (hg : ∀ s, get' (view s) = part (get s))
    (hp : ∀ r s, view (put r s) = put' (part r) (view s)) (h : Follows part tell x y) :
    Follows view tell (x.zoom get put) (y.zoom get' put') := by
  induction h with
  | done a => exact .done a
  | step see h _ ih =>
    refine .step see (fun s => ?_) ih
    simp only [hg, h, hp]
  | aside h _ ih =>
    refine .aside (fun s => ?_) ih
    simp only [hp, h]
    rw [← hp, put_get]
  | emit e _ ih => exact .emit e ih
  | wait ms _ ih => exact .wait ms ih
  | never => exact .never
  | guarded g _ _ ihb ihn => exact .guarded g ihb ihn
  | exclusive _ _ ihb ihn => exact .exclusive ihb ihn

/-- A program on a part of a state follows the program. -/
theorem of_zoom {get : σ → τ} {put : τ → σ → σ} (get_put : ∀ t s, get (put t s) = t)
    (x : Timed ε τ α) : Follows get id (x.zoom get put) x := by
  induction x with
  | done a => exact .done a
  | step act next ih =>
    refine .step id (fun s => ?_) ih
    simp only [id, get_put]
  | emit e next ih => exact .emit e ih
  | wait ms next ih => exact .wait ms ih
  | never => exact .never
  | guarded g body next ihb ihn => exact .guarded g ihb ihn
  | exclusive body next ihb ihn => exact .exclusive ihb ihn

end Follows

end KvBridge.Timed
