import KvBridge.Proofs.Connection.Spell
import KvBridge.Proofs.Timed.Crowd
import KvBridge.Proofs.Timed.Follows

/-!
# How a program conducts itself between its commands

`Timed.Ensures` is what a program has to answer for from a state on, by recursion on the program:
what holds when it gives a command, what holds wherever it can be cut short, and what holds when it
ends. The last two may speak of the commands that were given by then. A program can be cut short
where it waits, or, on harder terms, at any moment.

There is one rule for each way to put programs together. What a program answers for it keeps to in
a run (`Timed.Ensures.run`), of which `Timed.witnessed` says in which states its events were told,
and, on the harder terms, in each of its moves among other clients (`Timed.Ensures.moves`).
-/

namespace KvBridge

variable {ε η σ τ α β δ : Type}

/-- What is asked of a program: whether it answers for every moment or only for those at which it
waits, and what must hold when it gives a command. -/
structure Terms (σ : Type) where
  anytime : Prop
  told : Command → σ → Prop

namespace Timed

/-- From a state on, after the commands `cs`, the program keeps to its terms, has `inv` wherever it
can be cut short, and `post` when it ends. What follows a part that is cut short is held to the
same, from wherever that is. -/
def Ensures (w : Terms σ) {α : Type} : Program σ α → (List Command → σ → Prop) →
    (α → List Command → σ → Prop) → List Command → σ → Prop
  | .done a, inv, post, cs, s => (w.anytime → inv cs s) ∧ post a cs s
  | .step act next, inv, post, cs, s =>
    (w.anytime → inv cs s) ∧ (next (act s).1).Ensures w inv post cs (act s).2
  | .emit e next, inv, post, cs, s =>
    (w.anytime → inv cs s) ∧ (∀ c, e.command? = some c → w.told c s) ∧
      next.Ensures w inv post (cs ++ [e].filterMap Event.command?) s
  | .wait _ next, inv, post, cs, s => inv cs s ∧ next.Ensures w inv post cs s
  | .never, inv, _, cs, s => inv cs s
  | .guarded _ body next, inv, post, cs, s =>
    (next (.error .cancelled)).Ensures w inv post cs s ∧
      body.Ensures w (fun cs s => inv cs s ∧ ∀ why, (next (.error why)).Ensures w inv post cs s)
        (fun b cs s => (next (.ok b)).Ensures w inv post cs s) cs s
  | .exclusive body next, inv, post, cs, s =>
    (w.anytime → inv cs s) ∧
      body.Ensures w inv (fun b cs s => (next b).Ensures w inv post cs s) cs s

namespace Ensures

variable {w : Terms σ} {inv inv' : List Command → σ → Prop} {x : Program σ α}
  {post post' : α → List Command → σ → Prop} {cs : List Command} {s : σ}

theorem mono (h : x.Ensures w inv post cs s) (hi : ∀ cs s, inv cs s → inv' cs s)
    (hp : ∀ a cs s, post a cs s → post' a cs s) : x.Ensures w inv' post' cs s := by
  induction x generalizing inv inv' cs s with
  | done a => exact ⟨fun ha => hi _ _ (h.1 ha), hp a _ _ h.2⟩
  | step act next ih => exact ⟨fun ha => hi _ _ (h.1 ha), ih _ h.2 hi hp⟩
  | emit e next ih => exact ⟨fun ha => hi _ _ (h.1 ha), h.2.1, ih h.2.2 hi hp⟩
  | wait ms next ih => exact ⟨hi _ _ h.1, ih h.2 hi hp⟩
  | never => exact hi _ _ h
  | guarded g body next ihb ihn =>
    exact ⟨ihn _ h.1 hi hp, ihb h.2
      (fun cs s hb => ⟨hi cs s hb.1, fun why => ihn _ (hb.2 why) hi hp⟩)
      fun b cs s hb => ihn (.ok b) hb hi hp⟩
  | exclusive body next ihb ihn =>
    exact ⟨fun ha => hi _ _ (h.1 ha), ihb h.2 hi fun b cs s hb => ihn b hb hi hp⟩

/-- On the harder terms, what holds wherever the program can be cut short holds at once. -/
theorem inv_of_anytime (ha : w.anytime) (h : x.Ensures w inv post cs s) : inv cs s := by
  induction x generalizing inv cs s with
  | done | step | emit | exclusive => exact h.1 ha
  | wait => exact h.1
  | never => exact h
  | guarded g body next ihb _ => exact (ihb h.2).1

theorem bind {f : α → Program σ β} {post : β → List Command → σ → Prop}
    (h : x.Ensures w inv (fun a cs s => (f a).Ensures w inv post cs s) cs s) :
    (x.bind f).Ensures w inv post cs s := by
  induction x generalizing inv cs s with
  | done a => exact h.2
  | step act next ih => exact ⟨h.1, ih _ h.2⟩
  | emit e next ih => exact ⟨h.1, h.2.1, ih h.2.2⟩
  | wait ms next ih => exact ⟨h.1, ih h.2⟩
  | never => exact h
  | guarded g body next _ ihn =>
    exact ⟨ihn _ h.1, mono h.2 (fun cs s hb => ⟨hb.1, fun why => ihn _ (hb.2 why)⟩)
      fun b cs s hb => ihn (.ok b) hb⟩
  | exclusive body next _ ihn => exact ⟨h.1, mono h.2 (fun _ _ h => h) fun b cs s hb => ihn b hb⟩

/-- What holds wherever the program can be cut short holds also when it ends, on the harder
terms. -/
theorem settled (h : x.Ensures w inv post cs s) :
    x.Ensures w inv (fun a cs s => (w.anytime → inv cs s) ∧ post a cs s) cs s := by
  induction x generalizing inv cs s with
  | done a => exact ⟨h.1, h⟩
  | step act next ih => exact ⟨h.1, ih _ h.2⟩
  | emit e next ih => exact ⟨h.1, h.2.1, ih h.2.2⟩
  | wait ms next ih => exact ⟨h.1, ih h.2⟩
  | never => exact h
  | guarded g body next _ ihn =>
    exact ⟨ihn _ h.1, mono h.2 (fun cs s hb => ⟨hb.1, fun why => ihn _ (hb.2 why)⟩)
      fun b cs s hb => ihn (.ok b) hb⟩
  | exclusive body next _ ihn => exact ⟨h.1, mono h.2 (fun _ _ h => h) fun b cs s hb => ihn b hb⟩

theorem alone (ha : w.anytime → inv cs s) (h : x.Ensures w inv post cs s) :
    (Timed.alone x).Ensures w inv post cs s := ⟨ha, h.settled⟩

/-- A program on a part of a state, by what it does on that part. -/
theorem zoom {get : σ → τ} {put : τ → σ → σ} {x : Program τ α}
    (get_put : ∀ t s, get (put t s) = t) (put_get : ∀ s, put (get s) s = s)
    (put_put : ∀ t t' s, put t' (put t s) = put t' s)
    (h : x.Ensures ⟨w.anytime, fun c r => w.told c (put r s)⟩ (fun cs r => inv cs (put r s))
      (fun a cs r => post a cs (put r s)) cs (get s)) :
    (x.zoom get put).Ensures w inv post cs s := by
  induction x generalizing inv cs s with
  | done a =>
    rw [Timed.Ensures, put_get] at h
    exact h
  | step act next ih =>
    rw [Timed.Ensures, put_get] at h
    refine ⟨h.1, ih _ ?_⟩
    simp only [get_put, put_put]
    exact h.2
  | emit e next ih =>
    rw [Timed.Ensures, put_get] at h
    refine ⟨h.1, fun c hc => ?_, ih h.2.2⟩
    have ht : w.told c (put (get s) s) := h.2.1 c hc
    rwa [put_get] at ht
  | wait ms next ih =>
    rw [Timed.Ensures, put_get] at h
    exact ⟨h.1, ih h.2⟩
  | never =>
    rw [Timed.Ensures, put_get] at h
    exact h
  | guarded g body next ihb ihn =>
    refine ⟨ihn _ h.1, ihb (h.2.mono (fun cs r hb => ⟨hb.1, fun why => ihn _ ?_⟩)
      fun b cs r hb => ihn _ ?_)⟩
    · simp only [get_put, put_put]
      exact hb.2 why
    · simp only [get_put, put_put]
      exact hb
  | exclusive body next ihb ihn =>
    rw [Timed.Ensures, put_get] at h
    refine ⟨h.1, ihb (h.2.mono (fun _ _ h => h) fun b cs r hb => ihn _ ?_)⟩
    simp only [get_put, put_put]
    exact hb

/-- Work within a context: if the context is cancelled beforehand it is not started, and wherever
it can be cut short its caller may be told so. -/
theorem within {ctx : Context} {body : Program σ (Except Failure α)}
    {mid : Except Failure α → List Command → σ → Prop}
    {post : Except Failure α → List Command → σ → Prop}
    (hs : (w.anytime → inv cs s) ∧ post (.error .cancelled) cs s)
    (hb : body.Ensures w inv' mid cs s)
    (hi : ∀ cs s, inv' cs s → inv cs s ∧ ∀ why, post (.error (ctx.failure why)) cs s)
    (hm : ∀ r cs s, mid r cs s → (w.anytime → inv cs s) ∧ post r cs s) :
    (ctx.within body).Ensures w inv post cs s :=
  ⟨hs, hb.mono
    (fun cs s h => ⟨(hi cs s h).1, fun why => ⟨fun _ => (hi cs s h).1, (hi cs s h).2 why⟩⟩)
    fun r cs s h => hm r cs s h⟩

/-- A line in the log is no command. -/
theorem notice (level : Level) (text : String) {f : Unit → Program σ α}
    (ha : w.anytime → inv cs s) (h : (f ()).Ensures w inv post cs s) :
    ((KvBridge.notice level text).bind f).Ensures w inv post cs s := by
  refine ⟨ha, nofun, ?_⟩
  show (f ()).Ensures w inv post (cs ++ []) s
  rw [List.append_nil]
  exact h

/-- A pause changes nothing. -/
theorem sleep (ctx : Context) (d : Duration) (h : inv cs s) :
    (ctx.sleep d : Program σ (Except Failure Unit)).Ensures w inv (fun _ => inv) cs s := by
  have wait : (.wait d.timerMillis (.done (.ok ())) : Program σ (Except Failure Unit)).Ensures w inv
      (fun _ => inv) cs s := ⟨h, fun _ => h, h⟩
  exact within ⟨fun _ => h, h⟩ wait (fun _ _ h => ⟨h, fun _ => h⟩) fun _ _ _ h => ⟨fun _ => h, h⟩

end Ensures

/-! ## Programs that give no commands -/

/-- The program gives no commands, however it goes on. -/
def Silent {α : Type} : Program σ α → Prop
  | .done _ | .never => True
  | .step _ next => ∀ b, (next b).Silent
  | .emit e next => e.command? = none ∧ next.Silent
  | .wait _ next => next.Silent
  | .guarded _ body next => body.Silent ∧ ∀ r, (next r).Silent
  | .exclusive body next => body.Silent ∧ ∀ b, (next b).Silent

/-- A program that gives no commands answers for what does not depend on the state. -/
theorem Silent.ensures {w : Terms σ} {inv : List Command → σ → Prop}
    {post : α → List Command → σ → Prop} {cs : List Command} {x : Program σ α} (h : x.Silent)
    (hi : ∀ s, inv cs s) (hp : ∀ a s, post a cs s) (s : σ) : x.Ensures w inv post cs s := by
  induction x generalizing inv s with
  | done a => exact ⟨fun _ => hi s, hp a s⟩
  | step act next ih => exact ⟨fun _ => hi s, ih _ (h _) hi hp _⟩
  | emit e next ih =>
    obtain ⟨he, h⟩ := h
    refine ⟨fun _ => hi s, ?_, ?_⟩
    · rw [he]
      nofun
    · rw [List.filterMap_cons_none he, List.filterMap_nil, List.append_nil]
      exact ih h hi hp s
  | wait ms next ih => exact ⟨hi s, ih h hi hp s⟩
  | never => exact hi s
  | guarded g body next ihb ihn =>
    exact ⟨ihn _ (h.2 _) hi hp s, ihb h.1 (fun s => ⟨hi s, fun why => ihn _ (h.2 _) hi hp s⟩)
      (fun b s => ihn _ (h.2 _) hi hp s) s⟩
  | exclusive body next ihb ihn =>
    exact ⟨fun _ => hi s, ihb h.1 hi (fun b s => ihn b (h.2 b) hi hp s) s⟩

namespace Silent

theorem bind {x : Program σ α} {f : α → Program σ β} (hx : x.Silent) (hf : ∀ a, (f a).Silent) :
    (x.bind f).Silent := by
  induction x with
  | done a => exact hf a
  | step act next ih => exact fun b => ih b (hx b) hf
  | emit e next ih => exact ⟨hx.1, ih hx.2 hf⟩
  | wait ms next ih => exact ih hx hf
  | never => trivial
  | guarded g body next _ ih => exact ⟨hx.1, fun r => ih r (hx.2 r) hf⟩
  | exclusive body next _ ih => exact ⟨hx.1, fun b => ih b (hx.2 b) hf⟩

theorem zoom (get : σ → τ) (put : τ → σ → σ) {x : Program τ α} (hx : x.Silent) :
    (x.zoom get put).Silent := by
  induction x with
  | done => trivial
  | step act next ih => exact fun b => ih b (hx b)
  | emit e next ih => exact ⟨hx.1, ih hx.2⟩
  | wait ms next ih => exact ih hx
  | never => trivial
  | guarded g body next ihb ihn => exact ⟨ihb hx.1, fun r => ihn r (hx.2 r)⟩
  | exclusive body next ihb ihn => exact ⟨ihb hx.1, fun b => ihn b (hx.2 b)⟩

end Silent

/-! ## Runs -/

/-- The program that tells with each event in which state it is told. -/
def witnessed {α : Type} : Timed ε σ α → Timed (ε × σ) σ α
  | .done a => .done a
  | .step act next => .step act fun b => (next b).witnessed
  | .emit e next => .step (fun s => (s, s)) fun s => .emit (e, s) next.witnessed
  | .wait ms next => .wait ms next.witnessed
  | .never => .never
  | .guarded g body next => .guarded g body.witnessed fun r => (next r).witnessed
  | .exclusive body next => .exclusive body.witnessed fun b => (next b).witnessed

/-- The program that tells of states follows the other. -/
theorem witnessed_follows (x : Timed ε σ α) : Follows id Prod.fst x.witnessed x := by
  induction x with
  | done a => exact .done a
  | step act next ih => exact .step id (fun _ => rfl) ih
  | emit e next ih => exact .aside (fun _ => rfl) fun s => .emit (e, s) ih
  | wait ms next ih => exact .wait ms ih
  | never => exact .never
  | guarded g body next ihb ihn => exact .guarded g ihb ihn
  | exclusive body next ihb ihn => exact .exclusive ihb ihn

/-- If a program follows another one, it does so also when both tell of states. -/
theorem Follows.witnessed {view : σ → τ} {tell : ε → η} {x : Timed ε σ α} {y : Timed η τ α}
    (h : Follows view tell x y) :
    Follows view (Prod.map tell view) x.witnessed y.witnessed := by
  induction h with
  | done a => exact .done a
  | step see h _ ih => exact .step see h ih
  | aside h _ ih => exact .aside h ih
  | emit e _ ih => exact .step view (fun _ => rfl) fun s => .emit (e, s) ih
  | wait ms _ ih => exact .wait ms ih
  | never => exact .never
  | guarded g _ _ ihb ihn => exact .guarded g ihb ihn
  | exclusive _ _ ihb ihn => exact .exclusive ihb ihn

/-- An outcome without the states in which its events were told. -/
def Outcome.forget (o : Outcome (ε × σ) σ α) : Outcome ε σ α := o.seen id Prod.fst

theorem Outcome.forget_after (o : Outcome (ε × σ) σ α) (es : List (ε × σ)) :
    (o.after es).forget = o.forget.after (es.map Prod.fst) := o.seen_after es

/-- But for what it tells, the program that tells of states runs as the other. -/
theorem run_witnessed (x : Timed ε σ α) (horizon : Option Tick) (t : Tick) (s : σ) :
    (x.witnessed.run horizon t s).forget = x.run horizon t s :=
  x.witnessed_follows.run horizon t s

/-- What a run of a program has kept to that is held to terms. -/
structure Outcome.Kept (w : Terms σ) (inv : List Command → σ → Prop)
    (post : α → List Command → σ → Prop) (cs : List Command)
    (o : Outcome (Event × σ) σ α) : Prop where
  told : ∀ c s, (.command c, s) ∈ o.events → w.told c s
  ended : ∀ a u, o.finished = some (a, u) → post a (cs ++ o.forget.commands) o.state
  waiting : o.finished = none → inv (cs ++ o.forget.commands) o.state

namespace Outcome.Kept

variable {w : Terms σ} {inv inv' : List Command → σ → Prop} {cs : List Command}
  {mid : β → List Command → σ → Prop} {post : α → List Command → σ → Prop}

theorem after {o : Outcome (Event × σ) σ α} {es : List (Event × σ)}
    (ht : ∀ c s, (.command c, s) ∈ es → w.told c s)
    (h : o.Kept w inv post (cs ++ (es.map Prod.fst).filterMap Event.command?)) :
    (o.after es).Kept w inv post cs := by
  obtain ⟨told, ended, waiting⟩ := h
  refine ⟨fun c s hc => ?_, ?_, ?_⟩
  · exact (List.mem_append.1 hc).elim (ht c s) (told c s)
  · rw [forget_after, commands_after, ← List.append_assoc]
    exact ended
  · rw [forget_after, commands_after, ← List.append_assoc]
    exact waiting

/-- A run that goes on waiting. -/
theorem of_waiting {o : Outcome (Event × σ) σ α} (ho : o.finished = none)
    (told : ∀ c s, (.command c, s) ∈ o.events → w.told c s)
    (hi : inv (cs ++ o.forget.commands) o.state) : o.Kept w inv post cs := by
  refine ⟨told, fun a u ha => ?_, fun _ => hi⟩
  rw [ho] at ha
  cases ha

/-- What follows a run that has come to its end. -/
theorem andThen {o : Outcome (Event × σ) σ β} {f : β → Tick → σ → Outcome (Event × σ) σ α}
    (h : o.Kept w inv' mid cs) (hi : ∀ cs s, inv' cs s → inv cs s)
    (hf : ∀ b u cs s, mid b cs s → (f b u s).Kept w inv post cs) :
    (o.andThen f).Kept w inv post cs := by
  obtain ⟨told, ended, waiting⟩ := h
  obtain ⟨_ | ⟨b, u⟩, s, es⟩ := o
  · exact of_waiting rfl told (hi _ _ (waiting rfl))
  · exact after told (hf b u _ s (ended b u rfl))

end Outcome.Kept

/-- A run keeps to what its program answers for. -/
theorem Ensures.kept {w : Terms σ} {inv : List Command → σ → Prop} {x : Program σ α}
    {post : α → List Command → σ → Prop} {cs : List Command} {s : σ}
    (h : x.Ensures w inv post cs s) (horizon : Option Tick) (t : Tick) :
    (x.witnessed.run horizon t s).Kept w inv post cs := by
  have stopped {γ : Type} {inv : List Command → σ → Prop} {post : γ → List Command → σ → Prop}
      {cs : List Command} {s : σ} (hi : inv cs s) :
      (⟨none, s, []⟩ : Outcome (Event × σ) σ γ).Kept w inv post cs :=
    .of_waiting rfl (fun c s hc => absurd hc List.not_mem_nil) ((List.append_nil cs).symm ▸ hi)
  induction x generalizing inv cs s horizon t with
  | done a =>
    refine ⟨fun c s hc => absurd hc List.not_mem_nil, fun b u hb => ?_, fun hn => ?_⟩
    · cases hb
      exact (List.append_nil cs).symm ▸ h.2
    · cases hn
  | step act next ih => exact ih _ h.2 _ _
  | emit e next ih =>
    have ht : ∀ c s', (.command c, s') ∈ [(e, s)] → w.told c s' := by
      rintro c s' hc
      cases List.mem_singleton.1 hc
      exact h.2.1 c rfl
    exact .after ht (ih h.2.2 horizon t)
  | wait ms next ih =>
    simp only [witnessed, run]
    split
    · exact ih h.2 _ _
    · exact stopped h.1
  | never => exact stopped h
  | guarded g body next ihb ihn =>
    simp only [witnessed, run]
    split
    · exact ihn _ h.1 _ _
    split
    · exact (ihb h.2 horizon t).andThen (fun _ _ hi => hi.1) fun b u cs s hb => ihn _ hb _ _
    · rename_i why cut _
      have hk := ihb h.2 (some (nearer horizon (why.lastTick cut))) t
      generalize body.witnessed.run (some (nearer horizon (why.lastTick cut))) t s = o at *
      obtain ⟨told, ended, waiting⟩ := hk
      obtain ⟨_ | ⟨b, u⟩, s', es⟩ := o
      · obtain ⟨hi, hn⟩ := waiting rfl
        simp only
        split
        · exact .after told (ihn _ (hn why) _ _)
        · exact .of_waiting rfl told hi
      · exact .after told (ihn _ (ended b u rfl) _ _)
  | exclusive body next ihb ihn =>
    simp only [witnessed, run]
    exact (ihb h.2 horizon t).andThen (fun _ _ hi => hi) fun b u cs s hb => ihn _ hb _ _

/-- A run keeps to what its program answers for: of what it told in each state, of what it leaves
when it ends and of what it leaves when it does not. -/
theorem Ensures.run {w : Terms σ} {inv : List Command → σ → Prop} {x : Program σ α}
    {post : α → List Command → σ → Prop} {s : σ} (h : x.Ensures w inv post [] s)
    (horizon : Option Tick) (t : Tick) :
    (∀ c s', (.command c, s') ∈ (x.witnessed.run horizon t s).events → w.told c s') ∧
      (∀ a u, (x.run horizon t s).finished = some (a, u) →
        post a (x.run horizon t s).commands (x.run horizon t s).state) ∧
      ((x.run horizon t s).finished = none →
        inv (x.run horizon t s).commands (x.run horizon t s).state) := by
  obtain ⟨told, ended, waiting⟩ := h.kept horizon t
  have hr := run_witnessed x horizon t s
  rw [hr] at ended waiting
  have hf : (x.witnessed.run horizon t s).finished = (x.run horizon t s).finished :=
    congrArg Outcome.finished hr
  have hs : (x.witnessed.run horizon t s).state = (x.run horizon t s).state :=
    congrArg Outcome.state hr
  rw [hf, hs] at ended waiting
  exact ⟨told, ended, waiting⟩

/-- Every command of a run was told in some state. -/
theorem Ensures.told_of_mem {w : Terms σ} {inv : List Command → σ → Prop} {x : Program σ α}
    {post : α → List Command → σ → Prop} {s : σ} (h : x.Ensures w inv post [] s)
    {horizon : Option Tick} {t : Tick} {c : Command} (hc : c ∈ (x.run horizon t s).commands) :
    ∃ s', w.told c s' := by
  rw [← run_witnessed, Outcome.commands, List.mem_filterMap] at hc
  obtain ⟨e, he, hec⟩ := hc
  obtain ⟨⟨e, s'⟩, hs', rfl⟩ := List.mem_map.1 he
  cases e with
  | command c' =>
    cases hec
    exact ⟨s', (h.run horizon t).1 c s' hs'⟩
  | _ => cases hec

/-! ## Moves -/

/-- On the harder terms, a move of the program keeps to what it answers for, and so does what is
left of the program. -/
theorem Ensures.moves {w : Terms σ} (ha : w.anytime) {s s' : σ} {k : Access} {es : List Event}
    {x x' : Program σ α} (move : x.Moves s k es x' s') {inv : List Command → σ → Prop}
    {post : α → List Command → σ → Prop} {cs : List Command} (h : x.Ensures w inv post cs s) :
    (∀ c, .command c ∈ es → w.told c s) ∧
      x'.Ensures w inv post (cs ++ es.filterMap Event.command?) s' := by
  -- A move that tells of nothing leaves a program that still answers for the same.
  have quiet {γ : Type} {y : Program σ γ} {inv : List Command → σ → Prop}
      {post : γ → List Command → σ → Prop} {s₀ s : σ} (h : y.Ensures w inv post cs s) :
      (∀ c, .command c ∈ ([] : List Event) → w.told c s₀) ∧
        y.Ensures w inv post (cs ++ ([] : List Event).filterMap Event.command?) s := by
    rw [List.filterMap_nil, List.append_nil]
    exact ⟨nofun, h⟩
  have told {e : Event} {s : σ} (h : ∀ c, e.command? = some c → w.told c s) (c : Command)
      (hc : .command c ∈ [e]) : w.told c s := by
    cases List.mem_singleton.1 hc
    exact h c rfl
  induction move generalizing inv with
  | step act next s => exact quiet h.2
  | announce e act next s => exact ⟨told h.2.1, h.2.2.2⟩
  | tell e _ s => exact ⟨told h.2.1, h.2.2⟩
  | wake ms x s => exact quiet h.2
  | under g next _ ih =>
    obtain ⟨ht, hx⟩ := ih h.2
    obtain ⟨-, hn⟩ := hx.inv_of_anytime ha
    exact ⟨ht, hn .cancelled, hx⟩
  | ended g b next s => exact quiet h.2.2
  | cut _ next s =>
    obtain ⟨-, hn⟩ := h.2.inv_of_anytime ha
    exact quiet (hn _)
  | enter x next s => exact quiet h
  | inside next _ ih =>
    obtain ⟨ht, hx⟩ := ih h.2
    exact ⟨ht, fun _ => hx.inv_of_anytime ha, hx⟩
  | leave b next s => exact quiet h.2.2

end Timed

/-! ## Drivers and their connections -/

/-- The driver gives no commands, whatever else it does: only its connection gives commands. -/
def Driver.Silent (d : Driver δ) : Prop := ∀ c, (d.call c).Silent

theorem Clocked.silent_driver (name : String) (atomicSwap : Bool)
    (exec : (c : Command) → Reading → β → Except Cause c.Reply × β) :
    (Clocked.driver name atomicSwap exec).Silent := fun _ _ => trivial

/-- A command with a fault gives no commands if it gives none without it. -/
theorem Scripted.silent_disturbed {c : Command} (f : Fault)
    {forward : Program δ (Except Cause c.Reply)} (hf : forward.Silent) :
    (disturbed c f forward).Silent := by
  obtain ⟨delay, hang, fail, skip, size⟩ := f
  have late : (disturbed c ⟨none, hang, fail, skip, size⟩ forward).Silent := by
    simp only [disturbed]
    split
    · exact trivial
    split
    · exact trivial
    split
    · exact trivial
    refine .bind hf fun r => ?_
    split <;> exact trivial
  cases delay with
  | none => exact late
  | some d => exact late

theorem Scripted.silent_driver {d : Driver δ} (h : d.Silent) : (Scripted.driver d).Silent := by
  intro c
  have hf := (h c).zoom Scripted.store fun t s => { s with store := t }
  refine .bind (fun _ => trivial) fun fault => ?_
  cases fault with
  | none => exact hf
  | some f => exact silent_disturbed f hf

namespace Connection

open Timed (Ensures)

variable {conn : Connection δ} {w : Terms (Link δ)} {inv inv' : List Command → Link δ → Prop}
  {cs : List Command} {l : Link δ}

/-- One command within a context, by what the driver does with it. -/
theorem ensures_guarded {ctx : Context} {c : Command} (failed : Cause → Failure)
    {mid : Except Cause c.Reply → List Command → Link δ → Prop}
    {post : Except Failure c.Reply → List Command → Link δ → Prop}
    (hs : (w.anytime → inv cs l) ∧ post (.error .cancelled) cs l)
    (he : w.anytime → inv' cs l) (ht : w.told c l)
    (hc : Ensures w ((conn.driver.call c).zoom Link.store fun store l => { l with store })
      inv' mid (cs ++ [c]) l)
    (hi : ∀ cs l, inv' cs l → inv cs l ∧ ∀ why, post (.error (ctx.failure why)) cs l)
    (hm : ∀ r cs l, mid r cs l → (w.anytime → inv cs l) ∧ post (r.mapError failed) cs l) :
    Ensures w (conn.guarded ctx c failed).run inv post cs l := by
  have told (c' : Command) (h : (Event.command c).command? = some c') : w.told c' l := by
    cases h
    exact ht
  have invoked : Ensures w (conn.invoke c) inv'
      (fun r cs l => (w.anytime → inv' cs l) ∧ mid r cs l) cs l := ⟨he, told, hc.settled⟩
  have answered : Ensures w ((conn.invoke c).bind fun r => .done (r.mapError failed)) inv'
      (fun r' cs l => ∃ r, r' = r.mapError failed ∧ mid r cs l) cs l :=
    .bind (invoked.mono (fun _ _ h => h) fun r cs l h => ⟨h.1, r, rfl, h.2⟩)
  refine .within hs answered hi ?_
  rintro _ cs l ⟨r, rfl, h⟩
  exact hm r cs l h

end Connection

end KvBridge
