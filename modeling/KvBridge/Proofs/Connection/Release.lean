import KvBridge.Proofs.Connection.Spell
import KvBridge.Store.Memory

/-!
# Whether a client is released before another one is set up

In a run of calls that set a client up or release it, one after the other, each call does one of
six things (`LinkTurn.Deed`). It *abandons* its client (`LinkTurn.Abandons`) when its token is
cancelled at the moment at which it would release it: in the middle of setting up, or before
closing. All other clients are released before the next one is set up. So between any two commands
to connect there is one to close exactly if no call that abandons its client is followed by one that
sets another up (`history_releasedBetween_iff`).
-/

namespace KvBridge

variable {δ : Type}

/-! ## Runs -/

/-- A call to a connection that sets the client up or releases it. -/
inductive LifecycleCall
  | connect
  | close
  | acquire
deriving DecidableEq, Repr

/-- A call, its context and when it is made. -/
structure Visit where
  call : LifecycleCall
  ctx : Context := {}
  start : Tick := 0

/-- Whether the call is cancelled before it is made. -/
def Visit.isCancelled (v : Visit) : Bool := v.ctx.isCancelled v.start

/-- A call in a run, the phase that it found and how it went. -/
structure LinkTurn (δ : Type) extends Visit where
  phase : Phase
  outcome : Timed.Outcome Event (Link δ) (Except Failure Unit)

namespace Connection

/-- The program of a call. -/
def visit (conn : Connection δ) (v : Visit) : Call (Link δ) Unit :=
  match v.call with
  | .connect => conn.connect v.ctx
  | .close => conn.close v.ctx
  | .acquire => conn.acquire v.ctx

/-- How the calls of a run go, one after the other. -/
def history (conn : Connection δ) : List Visit → Link δ → List (LinkTurn δ)
  | [], _ => []
  | v :: visits, l =>
    let o := (conn.visit v).run.run none v.start l
    ⟨v, l.phase, o⟩ :: history conn visits o.state

end Connection

namespace LinkTurn

variable (turn : LinkTurn δ)

/-- What the call answered. -/
def answer : Option (Except Failure Unit) := turn.outcome.finished.map Prod.fst

/-- The call finds no client, and starts to set one up. -/
def SetsUp : Prop :=
  turn.call ≠ .close ∧ turn.phase = .disconnected ∧ turn.isCancelled = false

/-- The call leaves a client behind that it does not release: it was cancelled while it set the
client up, or before it began to close it. -/
def Abandons : Prop :=
  turn.SetsUp ∧ turn.answer = some (.error .cancelled) ∨
    turn.call = .close ∧ turn.phase = .connected ∧ turn.isCancelled = true

theorem SetsUp.abandons_iff {turn : LinkTurn δ} (h : turn.SetsUp) :
    turn.Abandons ↔ turn.answer = some (.error .cancelled) :=
  ⟨fun ha => ha.elim And.right fun hc => absurd hc.1 h.1, fun ha => .inl ⟨h, ha⟩⟩

/-- What a call does, by what it finds and answers: the commands that it gives to the driver, and
the phase that it leaves. -/
inductive Deed : List Command → Phase → Prop
  /-- There is nothing to do, or the call is cancelled before it sets a client up. -/
  | idle (h : ¬ turn.SetsUp) (h' : ¬ (turn.call = .close ∧ turn.phase = .connected)) :
      Deed [] turn.phase
  /-- The client is set up. -/
  | setUp (k : Nat) (h : turn.SetsUp) (ha : turn.answer = some (.ok ())) :
      Deed (.connect :: List.replicate k .ready) .connected
  /-- The client was set up in vain, and is released. -/
  | failed (k : Nat) (f : Failure) (h : turn.SetsUp) (hf : f ≠ .cancelled)
      (ha : turn.answer = some (.error f)) :
      Deed (.connect :: (List.replicate k .ready ++ [.close])) .disconnected
  /-- The call was cancelled while it set the client up, which stays. -/
  | abandoned (k : Nat) (h : turn.SetsUp) (ha : turn.answer = some (.error .cancelled)) :
      Deed (.connect :: List.replicate k .ready) .disconnected
  /-- The client is released. -/
  | released (h : turn.call = .close) (hp : turn.phase = .connected)
      (hc : turn.isCancelled = false) : Deed [.close] .disconnected
  /-- The call was cancelled before it released the client, which stays. -/
  | leaked (h : turn.call = .close) (hp : turn.phase = .connected)
      (hc : turn.isCancelled = true) : Deed [] .disconnected

/-- The call ends, and has done one of the six. -/
structure Accounted : Prop where
  ends : turn.answer.isSome = true
  deed : turn.Deed turn.outcome.commands turn.outcome.state.phase

end LinkTurn

/-! ## One call -/

namespace Connection

variable {conn : Connection δ} {v : Visit} {l : Link δ}

/-- What `close` does, by whether there is a client. -/
theorem run_close (conn : Connection δ) (ctx : Context) (t : Tick) (phase : Phase) (store : δ) :
    (conn.close ctx).run.run none t ⟨phase, store⟩ =
      match phase with
      | .disconnected => ⟨some (.ok (), t), ⟨.disconnected, store⟩, []⟩
      | .connected => ((conn.release ctx).run.run none t ⟨.disconnected, store⟩).after
          [.notice .info "closing connection"] := by
  simp only [close, ExceptT.run, Timed.run_alone]
  cases phase <;> rfl

theorem accounted_close (hq : conn.driver.Quiet) (hv : v.call = .close) (l : Link δ) :
    LinkTurn.Accounted ⟨v, l.phase, (conn.close v.ctx).run.run none v.start l⟩ := by
  obtain ⟨phase, store⟩ := l
  have hs {o} : ¬ (⟨v, phase, o⟩ : LinkTurn δ).SetsUp := fun h => h.1 hv
  have hrun := run_close conn v.ctx v.start phase store
  cases phase with
  | disconnected =>
    rw [hrun]
    exact ⟨rfl, .idle hs (by simp)⟩
  | connected =>
    rw [hrun]
    cases hc : v.isCancelled with
    | true =>
      rw [run_release_of_isCancelled hc]
      exact ⟨rfl, .leaked hv rfl hc⟩
    | false =>
      have hes : [Event.notice .info "closing connection"].filterMap Event.command? = [] := rfl
      have h := (spell_release hq hc (Timed.isSeen_none _) ⟨.disconnected, store⟩).after hes
      obtain ⟨r, u, hr⟩ := ends_release conn v.ctx v.start ⟨.disconnected, store⟩
      refine ⟨by simp [LinkTurn.answer, Timed.Outcome.after, hr], ?_⟩
      simp only [h.commands, h.phase]
      exact .released hv rfl hc

/-- Nothing is done to a client that is up. -/
theorem run_connect_of_connected (conn : Connection δ) (ctx : Context) (t : Tick) (store : δ) :
    (conn.connect ctx).run.run none t ⟨.connected, store⟩ =
      ⟨some (.ok (), t), ⟨.connected, store⟩, []⟩ := by
  simp only [connect, ExceptT.run, Timed.run_alone]
  rfl

/-- What `connect` does when there is no client yet. -/
theorem run_connect (conn : Connection δ) (ctx : Context) (t : Tick) (store : δ) :
    (conn.connect ctx).run.run none t ⟨.disconnected, store⟩ =
      ((ctx.within (conn.establish ctx).run).run none t ⟨.disconnected, store⟩).andThen fun r u l =>
        match r with
        | .ok () => ⟨some (.ok (), u), { l with phase := .connected }, [.notice .info "connected"]⟩
        | .error f => ((conn.release ctx).run.run none u l).andThen fun r u l =>
          match r with
          | .ok () => ⟨some (.error f, u), l, []⟩
          | .error _ => ⟨some (.error f, u), l,
              [.notice .warn "failed to release client after connect failure"]⟩ := by
  have hn : (Phase.disconnected == Phase.connected) = false := rfl
  simp only [connect, ExceptT.run, Timed.run_alone, isConnected, Timed.look, Timed.bind_eq_bind,
    Timed.bind, Timed.run, hn, Bool.false_eq_true, if_false, Timed.run_bind]
  congr 1
  funext r u l
  rcases r with f | ⟨⟩
  · rw [Timed.run_bind]
    congr 1
    funext r u l
    rcases r with f' | ⟨⟩ <;> rfl
  · rfl

/-- A failure to set the client up is answered as it is, after an attempt to release the client. -/
theorem run_connect_of_error {ctx : Context} {t u : Tick} {store : δ} {l : Link δ} {f : Failure}
    {es : List Event}
    (h : (ctx.within (conn.establish ctx).run).run none t ⟨.disconnected, store⟩ =
      ⟨some (.error f, u), l, es⟩) :
    ∃ u' es', (conn.connect ctx).run.run none t ⟨.disconnected, store⟩ =
        ⟨some (.error f, u'), ((conn.release ctx).run.run none u l).state,
          es ++ (((conn.release ctx).run.run none u l).events ++ es')⟩ ∧
      es'.filterMap Event.command? = [] := by
  obtain ⟨r, u', hr⟩ := ends_release conn ctx u l
  rw [run_connect, h, Timed.Outcome.andThen_some]
  generalize (conn.release ctx).run.run none u l = o at *
  obtain ⟨finished, l', fs⟩ := o
  cases hr
  cases r with
  | ok a => exact ⟨u', [], rfl, rfl⟩
  | error f' => exact ⟨u', [.notice .warn _], rfl, rfl⟩

/-- A call that is cancelled beforehand does not start to set a client up. -/
theorem accounted_connect_of_isCancelled (hv : v.call ≠ .close) (hc : v.isCancelled = true)
    (store : δ) : LinkTurn.Accounted
      ⟨v, .disconnected, (conn.connect v.ctx).run.run none v.start ⟨.disconnected, store⟩⟩ := by
  have hs {o} : ¬ (⟨v, .disconnected, o⟩ : LinkTurn δ).SetsUp := by simp [LinkTurn.SetsUp, hc]
  have h := Context.run_within_of_isCancelled hc (conn.establish v.ctx).run none
    ⟨.disconnected, store⟩
  obtain ⟨u, es, hrun, hes⟩ := run_connect_of_error h
  rw [hrun, run_release_of_isCancelled hc]
  refine ⟨rfl, ?_⟩
  simp only [Timed.Outcome.commands, List.nil_append, hes]
  exact .idle hs (fun h => hv h.1)

/-- All others do, and release the client when they fail, unless they are cancelled by then. -/
theorem accounted_connect_of_not_isCancelled (hq : conn.driver.Quiet) (hv : v.call ≠ .close)
    (hc : v.isCancelled = false) (store : δ) : LinkTurn.Accounted
      ⟨v, .disconnected, (conn.connect v.ctx).run.run none v.start ⟨.disconnected, store⟩⟩ := by
  have hs {o} : (⟨v, .disconnected, o⟩ : LinkTurn δ).SetsUp := ⟨hv, rfl, hc⟩
  have hspell := Spell.within hc (Timed.isSeen_none _) fun nearby hn _ =>
    spell_establish hq hc hn ⟨.disconnected, store⟩
  obtain ⟨r, u, hr⟩ := v.ctx.ends_within (ends_establish conn v.ctx) v.start
    ⟨.disconnected, store⟩
  obtain ⟨hp, ⟨k, hk⟩, -, htold⟩ := hspell
  have ht := htold r u hr
  clear htold
  generalize ho : (v.ctx.within (conn.establish v.ctx).run).run none v.start
    ⟨.disconnected, store⟩ = o at *
  obtain ⟨finished, ⟨phase, d⟩, es⟩ := o
  cases hr
  cases hp
  have hcmd : es.filterMap Event.command? = .connect :: List.replicate k .ready := hk
  cases r with
  | ok a =>
    rw [run_connect, ho, Timed.Outcome.andThen_some]
    refine ⟨rfl, ?_⟩
    simp only [Timed.Outcome.commands_after, hcmd]
    rw [show Timed.Outcome.commands _ = [] from rfl, List.append_nil]
    exact .setUp k hs rfl
  | error f =>
    obtain ⟨u', es', hrun, hes'⟩ := run_connect_of_error ho
    rw [hrun]
    by_cases hf : f = .cancelled
    · subst hf
      rw [run_release_of_isCancelled (ht.1 rfl)]
      refine ⟨rfl, ?_⟩
      simp only [Timed.Outcome.commands, List.filterMap_append, List.nil_append, hes',
        List.append_nil, hcmd]
      exact .abandoned k hs rfl
    · have hc' : v.ctx.isCancelled u = false := by simpa [hf] using ht
      have h := spell_release hq hc' (Timed.isSeen_none _) (⟨.disconnected, d⟩ : Link δ)
      have hclose : ((conn.release v.ctx).run.run none u ⟨.disconnected, d⟩).events.filterMap
          Event.command? = [.close] := h.commands
      refine ⟨rfl, ?_⟩
      simp only [Timed.Outcome.commands, List.filterMap_append, hes', List.append_nil, hcmd,
        hclose, List.cons_append, h.phase]
      exact .failed k f hs hf rfl

theorem accounted_connect (hq : conn.driver.Quiet) (hv : v.call ≠ .close) (l : Link δ) :
    LinkTurn.Accounted ⟨v, l.phase, (conn.connect v.ctx).run.run none v.start l⟩ := by
  obtain ⟨phase, store⟩ := l
  cases phase with
  | disconnected =>
    cases hc : v.isCancelled with
    | true => exact accounted_connect_of_isCancelled hv hc store
    | false => exact accounted_connect_of_not_isCancelled hq hv hc store
  | connected =>
    have hs {o} : ¬ (⟨v, .connected, o⟩ : LinkTurn δ).SetsUp := by simp [LinkTurn.SetsUp]
    rw [run_connect_of_connected]
    exact ⟨rfl, .idle hs (fun h => hv h.1)⟩

theorem accounted_acquire (hq : conn.driver.Quiet) (hv : v.call ≠ .close) (l : Link δ) :
    LinkTurn.Accounted ⟨v, l.phase, (conn.acquire v.ctx).run.run none v.start l⟩ := by
  obtain ⟨phase, store⟩ := l
  cases phase with
  | disconnected => exact accounted_connect hq hv ⟨.disconnected, store⟩
  | connected =>
    have hs {o} : ¬ (⟨v, .connected, o⟩ : LinkTurn δ).SetsUp := by simp [LinkTurn.SetsUp]
    exact ⟨rfl, .idle hs (fun h => hv h.1)⟩

theorem accounted_visit (hq : conn.driver.Quiet) (v : Visit) (l : Link δ) :
    LinkTurn.Accounted ⟨v, l.phase, (conn.visit v).run.run none v.start l⟩ := by
  obtain ⟨call, ctx, start⟩ := v
  cases call with
  | connect => exact accounted_connect (v := ⟨.connect, ctx, start⟩) hq (by simp) l
  | close => exact accounted_close (v := ⟨.close, ctx, start⟩) hq rfl l
  | acquire => exact accounted_acquire (v := ⟨.acquire, ctx, start⟩) hq (by simp) l

end Connection

/-! ## Commands in their order -/

/-- Between any two commands to connect there is one to close. -/
def ReleasedBetween (cs : List Command) : Prop :=
  ∀ between, (.connect :: between ++ [.connect]) <:+: cs → .close ∈ between

/-- There is a command to close before the first one to connect. -/
def ReleasedFirst (cs : List Command) : Prop :=
  ∀ before, before ++ [.connect] <+: cs → .close ∈ before

/-- The commands release each client before they set up another one. If one is up already it is
released first. -/
structure Tidy (isUp : Bool) (cs : List Command) : Prop where
  between : ReleasedBetween cs
  first : isUp = true → ReleasedFirst cs

theorem releasedBetween_cons (c : Command) (cs : List Command) :
    ReleasedBetween (c :: cs) ↔ (c = .connect → ReleasedFirst cs) ∧ ReleasedBetween cs := by
  simp only [ReleasedBetween, ReleasedFirst, List.cons_append, List.infix_cons_iff,
    List.cons_prefix_cons]
  constructor
  · intro h
    exact ⟨fun hc b hb => h b (.inl ⟨hc.symm, hb⟩), fun b hb => h b (.inr hb)⟩
  · rintro ⟨h₁, h₂⟩ b (⟨hc, hb⟩ | hb)
    · exact h₁ hc.symm b hb
    · exact h₂ b hb

theorem releasedFirst_cons (c : Command) (cs : List Command) :
    ReleasedFirst (c :: cs) ↔ c ≠ .connect ∧ (c = .close ∨ ReleasedFirst cs) := by
  constructor
  · intro h
    refine ⟨fun hc => ?_, ?_⟩
    · have hn := h [] (by simp [hc])
      cases hn
    · by_cases hc : c = .close
      · exact .inl hc
      · refine .inr fun b hb => ?_
        have hm := h (c :: b) (List.cons_prefix_cons.2 ⟨rfl, hb⟩)
        exact (List.mem_cons.1 hm).resolve_left (Ne.symm hc)
  · rintro ⟨hc, h⟩ (_ | ⟨x, b⟩) hb
    · exact absurd (List.cons_prefix_cons.1 hb).1.symm hc
    · obtain ⟨rfl, hb'⟩ := List.cons_prefix_cons.1 hb
      rcases h with rfl | h
      · exact List.mem_cons_self ..
      · exact List.mem_cons_of_mem _ (h b hb')

namespace Tidy

variable {isUp : Bool} {cs : List Command}

theorem nil (isUp : Bool) : Tidy isUp [] where
  between := by simp [ReleasedBetween]
  first := by simp [ReleasedFirst]

theorem iff_of_down : Tidy false cs ↔ ReleasedBetween cs := ⟨Tidy.between, fun h => ⟨h, nofun⟩⟩

theorem iff_cons (c : Command) : Tidy isUp (c :: cs) ↔
    ((c = .connect → ReleasedFirst cs) ∧ ReleasedBetween cs) ∧
      (isUp = true → c ≠ .connect ∧ (c = .close ∨ ReleasedFirst cs)) := by
  rw [← releasedBetween_cons, ← releasedFirst_cons]
  exact ⟨fun h => ⟨h.between, h.first⟩, fun h => ⟨h.1, h.2⟩⟩

theorem connect_iff : Tidy isUp (.connect :: cs) ↔ isUp = false ∧ Tidy true cs := by
  rw [iff_cons]
  cases isUp with
  | false => exact ⟨fun h => ⟨rfl, h.1.2, fun _ => h.1.1 rfl⟩,
      fun h => ⟨⟨fun _ => h.2.first rfl, h.2.between⟩, nofun⟩⟩
  | true => exact iff_of_false (fun h => (h.2 rfl).1 rfl) nofun

theorem close_iff : Tidy isUp (.close :: cs) ↔ Tidy false cs := by
  rw [iff_cons]
  exact ⟨fun h => ⟨h.1.2, nofun⟩, fun h => ⟨⟨nofun, h.between⟩, fun _ => ⟨nofun, .inl rfl⟩⟩⟩

theorem ready_iff : Tidy isUp (.ready :: cs) ↔ Tidy isUp cs := by
  rw [iff_cons]
  refine ⟨fun h => ⟨h.1.2, fun hu => ?_⟩, fun h => ⟨⟨nofun, h.between⟩, fun hu => ?_⟩⟩
  · exact (h.2 hu).2.resolve_left nofun
  · exact ⟨nofun, .inr (h.first hu)⟩

theorem probes_iff (k : Nat) : Tidy isUp (List.replicate k .ready ++ cs) ↔ Tidy isUp cs := by
  induction k with
  | zero => rfl
  | succ k ih => rw [List.replicate_succ, List.cons_append, ready_iff, ih]

end Tidy

/-! ## Runs -/

namespace Connection

variable {conn : Connection δ}

/-- The commands of a run. -/
def commands (turns : List (LinkTurn δ)) : List Command :=
  turns.flatMap fun turn => turn.outcome.commands

/-- Each call of a run is accounted for. -/
theorem accounted_history (hq : conn.driver.Quiet) (visits : List Visit) (l : Link δ) :
    ∀ turn ∈ conn.history visits l, turn.Accounted := by
  induction visits generalizing l with
  | nil => nofun
  | cons v visits ih =>
    intro turn ht
    rcases List.mem_cons.1 ht with rfl | ht
    · exact accounted_visit hq v l
    · exact ih _ turn ht

/-- What a call does to the order of the commands. A client is left behind after it if the call
abandons its own or if one was before. -/
theorem tidy_deed {turn : LinkTurn δ} {cs : List Command} {phase : Phase} {isUp : Bool}
    (hd : turn.Deed cs phase) (hl : turn.phase = .connected → isUp = true) :
    ∃ isUp' : Bool, (phase = .connected → isUp' = true) ∧
      (∀ rest, Tidy isUp (cs ++ rest) ↔ ¬ (isUp = true ∧ turn.SetsUp) ∧ Tidy isUp' rest) ∧
      (¬ (isUp = true ∧ turn.SetsUp) → (isUp' = true ∧ phase = .disconnected ↔
        turn.Abandons ∨ isUp = true ∧ turn.phase = .disconnected)) := by
  have hset (h : turn.SetsUp) : ¬ (isUp = true ∧ turn.SetsUp) ↔ isUp = false := by simp [h]
  cases hd with
  | idle h h' =>
    refine ⟨isUp, hl, fun rest => ?_, fun _ => ?_⟩
    · simp [h]
    · simp [LinkTurn.Abandons, h, ← and_assoc, h']
  | setUp k h ha =>
    refine ⟨true, fun _ => rfl, fun rest => ?_, fun hu => ?_⟩
    · rw [hset h, List.cons_append, Tidy.connect_iff, Tidy.probes_iff]
    · rw [h.abandons_iff, ha, (hset h).1 hu]
      simp
  | failed k f h hf ha =>
    refine ⟨false, nofun, fun rest => ?_, fun hu => ?_⟩
    · rw [hset h, List.cons_append, Tidy.connect_iff, List.append_assoc, Tidy.probes_iff]
      exact and_congr_right fun _ => Tidy.close_iff
    · rw [h.abandons_iff, ha, (hset h).1 hu]
      simp [hf]
  | abandoned k h ha =>
    refine ⟨true, fun _ => rfl, fun rest => ?_, fun hu => ?_⟩
    · rw [hset h, List.cons_append, Tidy.connect_iff, Tidy.probes_iff]
    · rw [h.abandons_iff, ha]
      simp
  | released h hp hc =>
    have hs : ¬ turn.SetsUp := fun hs => hs.1 h
    refine ⟨false, nofun, fun rest => ?_, fun _ => ?_⟩
    · rw [List.cons_append, Tidy.close_iff]
      simp [hs]
    · simp [LinkTurn.Abandons, hs, hp, hc]
  | leaked h hp hc =>
    have hs : ¬ turn.SetsUp := fun hs => hs.1 h
    refine ⟨true, fun _ => rfl, fun rest => ?_, fun _ => ?_⟩
    · simp [hs, hl hp]
    · simp [LinkTurn.Abandons, h, hp, hc]

/-- A run from any link, on which a client may be up already. It is up if the link says so, but it
may also have been left behind, and then no other one may be set up. -/
theorem tidy_history (hq : conn.driver.Quiet) (visits : List Visit) {l : Link δ} {isUp : Bool}
    (hl : l.phase = .connected → isUp = true) :
    Tidy isUp (commands (conn.history visits l)) ↔
      (conn.history visits l).Pairwise (fun a b => ¬ (a.Abandons ∧ b.SetsUp)) ∧
        (isUp = true ∧ l.phase = .disconnected →
          ∀ turn ∈ conn.history visits l, ¬ turn.SetsUp) := by
  induction visits generalizing l isUp with
  | nil => exact iff_of_true (.nil isUp) ⟨.nil, fun _ _ h => nomatch h⟩
  | cons v visits ih =>
    obtain ⟨-, hd⟩ := accounted_visit hq v l
    obtain ⟨isUp', hl', ht, hu⟩ := tidy_deed hd hl
    have ih := ih hl'
    simp only [history, commands, List.flatMap_cons, List.pairwise_cons, List.mem_cons,
      forall_eq_or_imp]
    rw [← commands, ht, ih]
    constructor
    · rintro ⟨hn, hp, hr⟩
      refine ⟨⟨fun b hb hab => hr ((hu hn).2 (.inl hab.1)) b hb hab.2, hp⟩, fun hl => ⟨?_, ?_⟩⟩
      · exact fun hs => hn ⟨hl.1, hs⟩
      · exact hr ((hu hn).2 (.inr hl))
    · rintro ⟨⟨ha, hp⟩, hr⟩
      have hn : ¬ (isUp = true ∧ _) := fun h => (hr ⟨h.1, h.2.2.1⟩).1 h.2
      refine ⟨hn, hp, fun hl => ?_⟩
      rcases (hu hn).1 hl with hab | hl
      · exact fun b hb hs => ha b hb ⟨hab, hs⟩
      · exact (hr hl).2

/-- In a run on a new connection every call ends and is accounted for. Between any two commands to
connect there is one to close exactly if no call that abandons its client is followed by one that
sets another up. -/
theorem history_releasedBetween_iff (hq : conn.driver.Quiet) (store : δ) (visits : List Visit) :
    let turns := conn.history visits ⟨.disconnected, store⟩
    (∀ turn ∈ turns, turn.Accounted) ∧
      (ReleasedBetween (commands turns) ↔
        turns.Pairwise fun a b => ¬ (a.Abandons ∧ b.SetsUp)) := by
  intro turns
  refine ⟨accounted_history hq visits _, ?_⟩
  have hl : (⟨.disconnected, store⟩ : Link δ).phase = .connected → false = true := nofun
  rw [← Tidy.iff_of_down, tidy_history hq visits hl]
  exact and_iff_left fun h => nomatch h.1

/-- A connection to a store in memory behind a script, with deadlines of a second and up to three
probes. -/
def rehearsed : Connection (Scripted (Clocked Memory)) :=
  .ofConfig (Scripted.driver (Memory.driver true)) ⟨1000, ⟨3, 100⟩⟩

theorem quiet_rehearsed : rehearsed.driver.Quiet :=
  Scripted.quiet_driver (Clocked.quiet_driver _ _ _)

/-- Two calls to connect, the first of which is cancelled in the middle of a probe: the client that
it set up is not released before the second one sets up another. -/
theorem not_releasedBetween_of_cancelled_probe :
    ¬ ReleasedBetween (commands (rehearsed.history
      [⟨.connect, { cancelledAt := some (.ofCancellation 50) }, 0⟩, ⟨.connect, {}, 101⟩]
      ⟨.disconnected, [("ready", [{ hang := true }])], 0, .empty⟩)) := by
  intro h
  have hc : commands (rehearsed.history
      [⟨.connect, { cancelledAt := some (.ofCancellation 50) }, 0⟩, ⟨.connect, {}, 101⟩]
      ⟨.disconnected, [("ready", [{ hang := true }])], 0, .empty⟩) =
      [.connect, .ready, .connect, .ready] := by decide +kernel
  rw [hc] at h
  have hb := h [.ready] (by decide)
  simp at hb

/-- A client that comes up late and is then closed is released before the next one is set up. -/
theorem history_releasedBetween_iff_of_late_backend :
    rehearsed.driver.Quiet ∧ ReleasedBetween (commands (rehearsed.history
      [⟨.connect, {}, 0⟩, ⟨.close, {}, 200⟩, ⟨.acquire, {}, 200⟩]
      ⟨.disconnected, [("ready", [{ fail := some (.text "no") }])], 0, .empty⟩)) := by
  refine ⟨quiet_rehearsed, (history_releasedBetween_iff quiet_rehearsed _ _).2.2 ?_⟩
  have ha : ∀ turn ∈ rehearsed.history [⟨.connect, {}, 0⟩, ⟨.close, {}, 200⟩, ⟨.acquire, {}, 200⟩]
      ⟨.disconnected, [("ready", [{ fail := some (.text "no") }])], 0, .empty⟩,
      turn.answer.any Except.isOk = true ∧ turn.isCancelled = false := by decide +kernel
  refine List.pairwise_iff_forall_sublist.2 fun {a b} hs hab => ?_
  obtain ⟨h, h'⟩ := ha a (hs.subset (List.mem_cons_self ..))
  rcases hab.1 with ⟨-, hc⟩ | ⟨-, -, hc⟩
  · rw [hc] at h
    cases h
  · rw [h'] at hc
    cases hc

end Connection

end KvBridge
