import KvBridge.Connection
import KvBridge.Store.Scripted
import KvBridge.Proofs.Timed.Run

/-!
# Which commands a part of a call gives

A part of a call to a connection, run before some horizon, is a *spell* (`Connection.Spell`): it
gives commands of some shape to the driver, leaves the phase as it is, and fails as cancelled
exactly if the call is cancelled by the time at which it ends. Drivers are arbitrary, but give no
commands to themselves (`Driver.Quiet`).

* `Connection.spell_guarded`: one command;
* `Connection.spell_establish`: setting a client up, in which a probe may be cut short anywhere;
* `Connection.ends_establish`, `Connection.ends_release`: neither goes on for ever.
-/

namespace KvBridge

variable {σ α β δ : Type}

/-- The command that an event tells of. -/
def Event.command? : Event → Option Command
  | .command c => some c
  | _ => none

namespace Timed.Outcome

/-- The commands that were given to the driver, in their order. -/
def commands (o : Outcome Event σ α) : List Command := o.events.filterMap Event.command?

theorem commands_after (o : Outcome Event σ α) (es : List Event) :
    (o.after es).commands = es.filterMap Event.command? ++ o.commands :=
  List.filterMap_append

end Timed.Outcome

/-- An operation that tells how it ended gives the commands that it gives by itself. -/
theorem commands_observed (component operation : String) (x : Call σ α) (horizon : Option Tick)
    (t : Tick) (s : σ) :
    ((observed component operation x).run.run horizon t s).commands =
      (x.run.run horizon t s).commands := by
  rw [run_observed]
  generalize x.run.run horizon t s = o
  obtain ⟨_ | ⟨r, u⟩, s', es⟩ := o
  · rfl
  · rw [Timed.Outcome.andThen_some, Timed.Outcome.commands_after]
    exact List.append_nil _

/-! ## Drivers that give no commands -/

/-- The program gives no commands. -/
def Timed.Quiet (x : Program σ α) : Prop := ∀ horizon t s, (x.run horizon t s).commands = []

namespace Timed.Quiet

theorem done (a : α) : Quiet (Timed.done a : Program σ α) := fun _ _ _ => rfl

theorem never : Quiet (Timed.never : Program σ α) := fun _ _ _ => rfl

theorem pause (ms : Nat) : Quiet (Timed.pause ms : Program σ Unit) := by
  intro horizon t s
  simp only [Timed.pause, run]
  split <;> rfl

theorem act (f : σ → α × σ) : Quiet (Timed.act f : Program σ α) := fun _ _ _ => rfl

theorem bind {x : Program σ α} {f : α → Program σ β} (hx : Quiet x) (hf : ∀ a, Quiet (f a)) :
    Quiet (x.bind f) := by
  intro horizon t s
  have h := hx horizon t s
  rw [run_bind]
  generalize x.run horizon t s = o at *
  obtain ⟨_ | ⟨a, u⟩, s', es⟩ := o
  · exact h
  · rw [Outcome.andThen_some, Outcome.commands_after, hf a horizon u s', List.append_nil]
    exact h

theorem zoom (get : σ → δ) (put : δ → σ → σ) (get_put : ∀ t s, get (put t s) = t)
    (put_get : ∀ s, put (get s) s = s) (put_put : ∀ t t' s, put t' (put t s) = put t' s)
    {x : Program δ α} (hx : Quiet x) : Quiet (x.zoom get put) := by
  intro horizon t s
  rw [run_zoom get put get_put put_get put_put]
  exact hx horizon t (get s)

end Timed.Quiet

/-- The driver gives no commands: only its connection does. -/
def Driver.Quiet (d : Driver δ) : Prop := ∀ c, Timed.Quiet (d.call c)

theorem Clocked.quiet_driver (name : String) (atomicSwap : Bool)
    (exec : (c : Command) → Reading → β → Except Cause c.Reply × β) :
    (Clocked.driver name atomicSwap exec).Quiet := fun _ => .act _

/-- A command with a fault gives no commands if it gives none without it. -/
theorem Scripted.quiet_disturbed {c : Command} (f : Fault)
    {forward : Program δ (Except Cause c.Reply)} (hf : forward.Quiet) :
    (disturbed c f forward).Quiet := by
  obtain ⟨delay, hang, fail, skip, size⟩ := f
  have late : (disturbed c ⟨none, hang, fail, skip, size⟩ forward).Quiet := by
    simp only [disturbed]
    split
    · exact .never
    split
    · exact .done _
    split
    · exact .done _
    refine .bind hf fun r => ?_
    split <;> exact .done _
  cases delay with
  | none => exact late
  | some d => exact .bind (.pause _) fun _ => late

theorem Scripted.quiet_driver {d : Driver δ} (h : d.Quiet) : (Scripted.driver d).Quiet := by
  intro c
  have hf := (h c).zoom Scripted.store (fun t s => { s with store := t }) (fun _ _ => rfl)
    (fun _ => rfl) fun _ _ _ => rfl
  refine .bind (.act _) fun fault => ?_
  cases fault with
  | none => exact hf
  | some f => exact quiet_disturbed f hf

namespace Connection

variable {conn : Connection δ} {ctx : Context} {horizon : Option Tick} {t : Tick} {l : Link δ}
  {shape : List Command → Prop}

/-- What a part of a call has done before a horizon. -/
structure Spell (ctx : Context) (horizon : Option Tick) (shape : List Command → Prop) (l : Link δ)
    (o : Timed.Outcome Event (Link δ) (Except Failure α)) : Prop where
  phase : o.state.phase = l.phase
  commands : shape o.commands
  seen : ∀ r u, o.finished = some (r, u) → Timed.isSeen horizon u = true
  told : ∀ r u, o.finished = some (r, u) →
    (r = .error .cancelled ↔ ctx.isCancelled u = true)

namespace Spell

/-- A part that ends at once without a command. -/
theorem done {r : Except Failure α} (ht : Timed.isSeen horizon t = true)
    (hr : r = .error .cancelled ↔ ctx.isCancelled t = true) (hs : shape []) (l : Link δ) :
    Spell ctx horizon shape l ⟨some (r, t), l, []⟩ where
  phase := rfl
  commands := hs
  seen := by
    rintro _ _ ⟨⟩
    exact ht
  told := by
    rintro _ _ ⟨⟩
    exact hr

/-- A part that has not ended before the horizon. -/
theorem waiting {o : Timed.Outcome Event (Link δ) (Except Failure α)}
    (hp : o.state.phase = l.phase) (hs : shape o.commands) (hn : o.finished = none) :
    Spell ctx horizon shape l o where
  phase := hp
  commands := hs
  seen r u h := by
    rw [hn] at h
    cases h
  told r u h := by
    rw [hn] at h
    cases h

/-- Events before a part that are no commands. -/
theorem after {o : Timed.Outcome Event (Link δ) (Except Failure α)} {es : List Event}
    (hes : es.filterMap Event.command? = []) (h : Spell ctx horizon shape l o) :
    Spell ctx horizon shape l (o.after es) :=
  { h with commands := by rw [Timed.Outcome.commands_after, hes]; exact h.commands }

/-- One part after the other. -/
theorem andThen {shape' : List Command → Prop}
    {o : Timed.Outcome Event (Link δ) (Except Failure α)}
    {f : Except Failure α → Tick → Link δ → Timed.Outcome Event (Link δ) (Except Failure β)}
    (h : Spell ctx horizon shape l o) (hs : ∀ cs, shape cs → shape' cs)
    (hf : ∀ cs r u l', shape cs → Timed.isSeen horizon u = true →
      (r = .error .cancelled ↔ ctx.isCancelled u = true) →
      Spell ctx horizon (fun cs' => shape' (cs ++ cs')) l' (f r u l')) :
    Spell ctx horizon shape' l (o.andThen f) := by
  obtain ⟨hp, hc, hu, hr⟩ := h
  obtain ⟨_ | ⟨r, u⟩, l', es⟩ := o
  · exact .waiting hp (hs _ hc) rfl
  · have hn := hf _ r u l' hc (hu r u rfl) (hr r u rfl)
    refine ⟨hn.phase.trans hp, ?_, hn.seen, hn.told⟩
    simp only [Timed.Outcome.andThen, Timed.Outcome.commands_after]
    exact hn.commands

/-- Of the context only the token matters. -/
theorem of_cancelledAt {probe : Context} (hp : probe.cancelledAt = ctx.cancelledAt)
    {o : Timed.Outcome Event (Link δ) (Except Failure α)} (h : Spell probe horizon shape l o) :
    Spell ctx horizon shape l o := by
  refine { h with told := fun r u hr => ?_ }
  have hk := h.told r u hr
  rwa [Context.isCancelled, hp] at hk

/-- Work within a context, by how the work goes before each horizon up to which nothing is
cancelled. -/
theorem within (hc : ctx.isCancelled t = false) (ht : Timed.isSeen horizon t = true)
    {body : Timed Event (Link δ) (Except Failure α)}
    (hb : ∀ nearby, Timed.isSeen nearby t = true →
      (∀ u, Timed.isSeen nearby u = true → ctx.isCancelled u = false) →
      Spell ctx nearby shape l (body.run nearby t l)) :
    Spell ctx horizon shape l ((ctx.within body).run horizon t l) := by
  obtain ⟨nearby, hn, hu, ending, he, hr⟩ := ctx.run_within hc ht body l
  obtain ⟨hp, hs, -, hk⟩ := hb nearby hn fun u h => (hu u h).2
  rw [hr]
  generalize body.run nearby t l = o at *
  obtain ⟨finished, l', es⟩ := o
  cases he with
  | done b u _ seen =>
    refine ⟨hp, hs, ?_, ?_⟩
    · rintro _ _ ⟨⟩
      exact seen
    · rintro _ _ ⟨⟩
      exact hk b u rfl
  | cut why cut alarm seen =>
    refine ⟨hp, hs, ?_, ?_⟩
    · rintro _ _ ⟨⟩
      exact seen
    · rintro _ _ ⟨⟩
      have ha : ctx.isCancelled cut = true ↔ why = .cancelled :=
        (Guard.alarm_spec (g := ctx.guard) hc alarm).2.2.2
      rw [ha]
      cases why <;> simp [Context.settle, Context.failure]
  | waiting => exact .waiting hp hs rfl

end Spell

/-- The driver gets the command, and changes its own state alone. -/
theorem run_invoke (conn : Connection δ) (c : Command) (horizon : Option Tick) (t : Tick)
    (l : Link δ) :
    (conn.invoke c).run horizon t l =
      let o := (conn.driver.call c).run horizon t l.store
      ⟨o.finished, { l with store := o.state }, .command c :: o.events⟩ := by
  rw [invoke, Timed.run, Timed.run_zoom Link.store (fun store l => { l with store })
    (fun _ _ => rfl) (fun _ => rfl) fun _ _ _ => rfl]
  rfl

/-- One command within a context that is not cancelled. -/
theorem spell_guarded (hq : conn.driver.Quiet) (ctx : Context) (hc : ctx.isCancelled t = false)
    (ht : Timed.isSeen horizon t = true) (c : Command) (failed : Cause → Failure)
    (hf : ∀ cause, failed cause ≠ .cancelled) (l : Link δ) :
    Spell ctx horizon (· = [c]) l ((conn.guarded ctx c failed).run.run horizon t l) := by
  refine .within hc ht fun nearby hn hu => ?_
  have hseen := fun r u => Timed.run_seen (conn.driver.call c) hn (a := r) (u := u) (s := l.store)
  have hcmd := hq c nearby t l.store
  rw [Timed.run_bind, run_invoke]
  generalize (conn.driver.call c).run nearby t l.store = o at *
  obtain ⟨_ | ⟨r, u⟩, d, es⟩ := o
  · refine .waiting rfl ?_ rfl
    simpa [Timed.Outcome.andThen, Timed.Outcome.commands, Event.command?] using hcmd
  · have hs := (hseen r u rfl).2
    refine ⟨rfl, ?_, ?_, ?_⟩
    · simpa [Timed.Outcome.andThen, Timed.Outcome.after, Timed.Outcome.commands, Timed.run,
        Event.command?] using hcmd
    · rintro _ _ ⟨⟩
      exact hs
    · rintro _ _ ⟨⟩
      rw [hu u hs]
      cases r with
      | ok a => exact iff_of_false (fun h => by cases h) (by simp)
      | error cause => exact iff_of_false (fun h => hf cause (Except.error.inj h)) (by simp)

/-- Within a context that is cancelled the driver gets no command. -/
theorem run_guarded_of_isCancelled (ctx : Context) (hc : ctx.isCancelled t = true) (c : Command)
    (failed : Cause → Failure) (horizon : Option Tick) (l : Link δ) :
    (conn.guarded ctx c failed).run.run horizon t l = ⟨some (.error .cancelled, t), l, []⟩ :=
  Context.run_within_of_isCancelled hc _ _ _

/-- A pause gives no command. -/
theorem spell_sleep (hc : ctx.isCancelled t = false) (ht : Timed.isSeen horizon t = true)
    (d : Duration) (l : Link δ) :
    Spell ctx horizon (· = []) l ((ctx.sleep d).run horizon t l) := by
  have hp : ({ ctx with timeout := none } : Context).cancelledAt = ctx.cancelledAt := rfl
  have hc' : ({ ctx with timeout := none } : Context).isCancelled t = false := hc
  refine Spell.of_cancelledAt hp (.within hc' ht fun nearby hn hu => ?_)
  simp only [Timed.run]
  split
  · rename_i hw
    refine .done hw ?_ (by rfl) l
    simp [hu _ hw]
  · exact .waiting rfl rfl rfl

/-- The wait for the backend gives probes only. -/
theorem spell_awaitReady (hq : conn.driver.Quiet) {ctx probe : Context}
    (hp : probe.cancelledAt = ctx.cancelledAt) (left : Nat) (hc : ctx.isCancelled t = false)
    (ht : Timed.isSeen horizon t = true) (l : Link δ) :
    Spell ctx horizon (fun cs => ∃ k, cs = List.replicate k .ready) l
      ((conn.awaitReady ctx probe left).run.run horizon t l) := by
  induction left generalizing t l with
  | zero => exact .done ht (by simp [hc]) ⟨0, rfl⟩ l
  | succ left ih =>
    have hg := spell_guarded hq probe (by simpa [Context.isCancelled, hp] using hc) ht .ready
      (.transport "ready" none) nofun l
    rw [awaitReady, ExceptT.run_mk, Timed.bind_eq_bind, Timed.run_bind]
    refine (hg.of_cancelledAt hp).andThen (fun cs h => ⟨1, h⟩) fun cs r u l' h hu hr => ?_
    subst h
    split
    · exact .done hu (by simpa using hr) ⟨1, rfl⟩ l'
    · exact .done hu hr ⟨1, rfl⟩ l'
    rename_i f hf
    have hf' : f ≠ .cancelled := hf
    have hc' : ctx.isCancelled u = false := by simpa [hf'] using hr
    simp only [notice, Timed.tell, Timed.bind_eq_bind, Timed.bind, Timed.run]
    refine .after rfl ?_
    split
    · exact .done hu (by simp [hc']) ⟨1, rfl⟩ l'
    rw [Timed.run_bind]
    refine (spell_sleep hc' hu _ l').andThen ?_ fun cs r u' l'' h hu' hr' => ?_
    · rintro _ rfl
      exact ⟨1, rfl⟩
    subst h
    split
    · exact .done hu' hr' ⟨1, rfl⟩ l''
    · have h := ih (by simpa using hr') hu' l''
      obtain ⟨k, hk⟩ := h.commands
      exact { h with commands := ⟨k + 1, congrArg (Command.ready :: ·) hk⟩ }

/-- Setting a client up: the driver gets the command to connect, and then probes. -/
theorem spell_establish (hq : conn.driver.Quiet) (hc : ctx.isCancelled t = false)
    (ht : Timed.isSeen horizon t = true) (l : Link δ) :
    Spell ctx horizon (fun cs => ∃ k, cs = .connect :: List.replicate k .ready) l
      ((conn.establish ctx).run.run horizon t l) := by
  have hp : ({ ctx with timeout := some conn.requestTimeout } : Context).cancelledAt =
    ctx.cancelledAt := rfl
  have hg := spell_guarded hq { ctx with timeout := some conn.requestTimeout } hc ht
    .connect (.connection conn.driver.name 1) nofun l
  rw [establish, ExceptT.run_bind, Timed.bind_eq_bind, Timed.run_bind]
  refine (hg.of_cancelledAt hp).andThen (fun cs h => ⟨0, h⟩) fun cs r u l' h hu hr => ?_
  subst h
  cases r with
  | error f => exact .done hu (by simpa using hr) ⟨0, rfl⟩ l'
  | ok a =>
    have h := spell_awaitReady hq hp conn.readiness.probes (by simpa using hr) hu l'
    obtain ⟨k, hk⟩ := h.commands
    exact { h with commands := ⟨k, congrArg (Command.connect :: ·) hk⟩ }

/-- Releasing a client: the driver gets the command to close. -/
theorem spell_release (hq : conn.driver.Quiet) (hc : ctx.isCancelled t = false)
    (ht : Timed.isSeen horizon t = true) (l : Link δ) :
    Spell ctx horizon (· = [.close]) l ((conn.release ctx).run.run horizon t l) := by
  have hp : (ctx.orTimeout conn.requestTimeout).cancelledAt = ctx.cancelledAt := rfl
  exact (spell_guarded hq (ctx.orTimeout conn.requestTimeout) hc ht .close (.transport "close" none)
    nofun l).of_cancelledAt hp

/-- A client is not released within a context that is cancelled. -/
theorem run_release_of_isCancelled (hc : ctx.isCancelled t = true) (horizon : Option Tick)
    (l : Link δ) : (conn.release ctx).run.run horizon t l = ⟨some (.error .cancelled, t), l, []⟩ :=
  run_guarded_of_isCancelled (ctx.orTimeout conn.requestTimeout) hc .close _ horizon l

/-! ## No part goes on for ever -/

theorem ends_awaitReady {probe : Context} {d : Duration} (hd : probe.timeout = some d)
    (left : Nat) : (conn.awaitReady ctx probe left).run.Ends := by
  induction left with
  | zero => exact .done _
  | succ left ih =>
    rw [awaitReady, ExceptT.run_mk]
    refine .bind (Context.ends_within_of_timeout hd _) fun r => ?_
    split
    · exact .done _
    · exact .done _
    refine .bind (.emit _ (.done _)) fun _ => ?_
    split
    · exact .done _
    refine .bind (Context.ends_within _ (.wait _ (.done _))) fun r => ?_
    split
    · exact .done _
    · exact ih

theorem ends_establish (conn : Connection δ) (ctx : Context) : (conn.establish ctx).run.Ends := by
  rw [establish, ExceptT.run_bind]
  refine .bind (Context.ends_within_of_timeout rfl _) fun r => ?_
  cases r with
  | error f => exact .done _
  | ok a => exact ends_awaitReady rfl _

theorem ends_release (conn : Connection δ) (ctx : Context) : (conn.release ctx).run.Ends := by
  obtain ⟨c, _ | d⟩ := ctx
  · exact Context.ends_within_of_timeout (d := conn.requestTimeout) rfl _
  · exact Context.ends_within_of_timeout (d := d) rfl _

end Connection

end KvBridge
