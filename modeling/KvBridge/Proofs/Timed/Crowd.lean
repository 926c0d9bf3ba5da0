import KvBridge.Proofs.Timed.Run

/-!
# Clients that move in any order

The programs of several clients work on one state and move one at a time, in any order. A move is
one step on the state, with the event that is told of it, or something that a client does without
the state: it enters the exclusive part, is woken, or is cut short. Time is left open: a wait may
end at any moment, a deadline may cut a part short whenever that part may have to wait, and what
can be cancelled can be cancelled at any moment. What holds in all crowds that can be reached
therefore holds however the clients are scheduled and however fast they are.

* `Timed.Moves`: one move of a program;
* `Crowd.Step`, `Crowd.Reaches`: one move among clients, and any number of them;
* `Timed.Keeps`: what all steps of a program keep to;
* `Timed.goes_run`, `Crowd.reaches_run`: a program that is run alone makes moves, so to run one
  client alone is one way for the crowd to go;
* `Crowd.turn`, `Crowd.reaches_turns`: a schedule says whose turn it is, move by move.
-/

namespace KvBridge

variable {ε σ α β ι : Type} {ans : ι → Type}

/-! ## Moves -/

/-- What a move has to do with the exclusive part. -/
inductive Access
  | free
  | enter
  | inside
  | leave
  | giveUp
deriving DecidableEq, Repr

/-- Who is in the exclusive part before and after a client moves. -/
inductive Access.Allows (i : ι) : Access → Option ι → Option ι → Prop
  | free (holder : Option ι) : Allows i .free holder holder
  | enter : Allows i .enter none (some i)
  | inside : Allows i .inside (some i) (some i)
  | leave : Allows i .leave (some i) none
  | giveUp : Allows i .giveUp (some i) none
  | giveUp_outside {holder : Option ι} (h : holder ≠ some i) : Allows i .giveUp holder holder

/-- Whether a guard may cut a part short. A deadline does so only while the part waits. -/
def Guard.mayCut (g : Guard) (ready : Bool) : Interruption → Bool
  | .cancelled => g.cancelledAt.isSome
  | .expired => g.timeoutMs.isSome && !ready

/-- A guard that will cut a part short may do so while the part waits. -/
theorem Guard.mayCut_of_alarm {g : Guard} {t cut : Tick} {why : Interruption}
    (h : g.alarm t = some (why, cut)) : g.mayCut false why = true := by
  obtain ⟨cancelledAt, timeoutMs⟩ := g
  cases cancelledAt <;> cases timeoutMs <;> grind [Guard.alarm, Guard.mayCut]

namespace Timed

/-- Whether the program goes on of itself. It may have to wait for the exclusive part. -/
def isReady {α : Type} : Timed ε σ α → Bool
  | .done _ | .step .. | .emit .. => true
  | .wait .. | .never | .exclusive .. => false
  | .guarded _ body _ => body.isReady

/-- Whether the program is about to step on the state. -/
def isStep : Timed ε σ α → Bool
  | .step .. => true
  | _ => false

/-- One move of a program: what it has to do with the exclusive part, the events that are told, the
program that is left and the state. A step is taken together with the event that tells of it. -/
inductive Moves : {α : Type} → Timed ε σ α → σ → Access → List ε → Timed ε σ α → σ → Prop
  | step {α β : Type} (act : σ → β × σ) (next : β → Timed ε σ α) (s : σ) :
    Moves (.step act next) s .free [] (next (act s).1) (act s).2
  | announce {α β : Type} (e : ε) (act : σ → β × σ) (next : β → Timed ε σ α) (s : σ) :
    Moves (.emit e (.step act next)) s .free [e] (next (act s).1) (act s).2
  | tell {α : Type} (e : ε) {x : Timed ε σ α} (hx : x.isStep = false) (s : σ) :
    Moves (.emit e x) s .free [e] x s
  | wake {α : Type} (ms : Nat) (x : Timed ε σ α) (s : σ) : Moves (.wait ms x) s .free [] x s
  | under {α β : Type} {x x' : Timed ε σ β} {s s' : σ} {k : Access} {es : List ε} (g : Guard)
    (next : Except Interruption β → Timed ε σ α) (move : Moves x s k es x' s') :
    Moves (.guarded g x next) s k es (.guarded g x' next) s'
  | ended {α β : Type} (g : Guard) (b : β) (next : Except Interruption β → Timed ε σ α) (s : σ) :
    Moves (.guarded g (.done b) next) s .free [] (next (.ok b)) s
  | cut {α β : Type} {g : Guard} {why : Interruption} {x : Timed ε σ β}
    (h : g.mayCut x.isReady why = true) (next : Except Interruption β → Timed ε σ α) (s : σ) :
    Moves (.guarded g x next) s .giveUp [] (next (.error why)) s
  | enter {α β : Type} (x : Timed ε σ β) (next : β → Timed ε σ α) (s : σ) :
    Moves (.exclusive x next) s .enter [] (.exclusive x next) s
  | inside {α β : Type} {x x' : Timed ε σ β} {s s' : σ} {k : Access} {es : List ε}
    (next : β → Timed ε σ α) (move : Moves x s k es x' s') :
    Moves (.exclusive x next) s .inside es (.exclusive x' next) s'
  | leave {α β : Type} (b : β) (next : β → Timed ε σ α) (s : σ) :
    Moves (.exclusive (.done b) next) s .leave [] (next b) s

end Timed

/-! ## Crowds -/

/-- Clients on one state: their programs, who is in the exclusive part, the state, and the events
that were told, with who told them. -/
structure Crowd (ε σ : Type) {ι : Type} (ans : ι → Type) where
  programs : (i : ι) → Timed ε σ (ans i)
  holder : Option ι
  state : σ
  log : List (ι × ε)

namespace Crowd

/-- A client moves, or the state changes of itself as `drift` says. -/
inductive Step (drift : σ → σ → Prop) (c c' : Crowd ε σ ans) : Prop
  | client (i : ι) {k : Access} {es : List ε}
    (move : (c.programs i).Moves c.state k es (c'.programs i) c'.state)
    (others : ∀ j, j ≠ i → c'.programs j = c.programs j) (access : k.Allows i c.holder c'.holder)
    (log : c'.log = c.log ++ es.map fun e => (i, e))
  | drift (state : drift c.state c'.state) (programs : c'.programs = c.programs)
    (holder : c'.holder = c.holder) (log : c'.log = c.log)

/-- Any number of moves. -/
inductive Reaches (drift : σ → σ → Prop) (c : Crowd ε σ ans) : Crowd ε σ ans → Prop
  | refl : Reaches drift c c
  | tail {d d' : Crowd ε σ ans} (before : Reaches drift c d) (step : Step drift d d') :
    Reaches drift c d'

variable {drift : σ → σ → Prop} {c d : Crowd ε σ ans}

/-- What every move keeps holds in all crowds that can be reached. -/
theorem Reaches.invariant (h : Reaches drift c d) (inv : Crowd ε σ ans → Prop) (hc : inv c)
    (step : ∀ {d d'}, inv d → Step drift d d' → inv d') : inv d := by
  induction h with
  | refl => exact hc
  | tail _ hs ih => exact step ih hs

end Crowd

/-! ## What all steps of a program keep to -/

namespace Timed

/-- Every step from a state with `inv` keeps to `rel`, however the program goes on. -/
def Keeps (inv : σ → Prop) (rel : σ → σ → Prop) {α : Type} : Timed ε σ α → Prop
  | .done _ | .never => True
  | .step act next => ∀ s, inv s → rel s (act s).2 ∧ (next (act s).1).Keeps inv rel
  | .emit _ next | .wait _ next => next.Keeps inv rel
  | .guarded _ body next => body.Keeps inv rel ∧ ∀ r, (next r).Keeps inv rel
  | .exclusive body next => body.Keeps inv rel ∧ ∀ b, (next b).Keeps inv rel

namespace Keeps

variable {inv : σ → Prop} {rel : σ → σ → Prop} {x : Timed ε σ α}

theorem bind {f : α → Timed ε σ β} (hx : x.Keeps inv rel) (hf : ∀ a, (f a).Keeps inv rel) :
    (x.bind f).Keeps inv rel := by
  induction x with
  | done a => exact hf a
  | step act next ih => exact fun s hs => ⟨(hx s hs).1, ih _ (hx s hs).2 hf⟩
  | emit e next ih => exact ih hx hf
  | wait ms next ih => exact ih hx hf
  | never => trivial
  | guarded g body next _ ih => exact ⟨hx.1, fun r => ih r (hx.2 r) hf⟩
  | exclusive body next _ ih => exact ⟨hx.1, fun b => ih b (hx.2 b) hf⟩

theorem moves (refl : ∀ s, inv s → rel s s) {s s' : σ} {k : Access} {es : List ε}
    {x' : Timed ε σ α} (move : x.Moves s k es x' s') (hx : x.Keeps inv rel) (hs : inv s) :
    rel s s' ∧ x'.Keeps inv rel := by
  induction move with
  | step act next s => exact hx s hs
  | announce e act next s => exact hx s hs
  | tell e _ s => exact ⟨refl s hs, hx⟩
  | wake ms x s => exact ⟨refl s hs, hx⟩
  | under g next _ ih =>
    obtain ⟨h, h'⟩ := ih hx.1 hs
    exact ⟨h, h', hx.2⟩
  | ended g b next s => exact ⟨refl s hs, hx.2 _⟩
  | cut _ next s => exact ⟨refl s hs, hx.2 _⟩
  | enter x next s => exact ⟨refl s hs, hx⟩
  | inside next _ ih =>
    obtain ⟨h, h'⟩ := ih hx.1 hs
    exact ⟨h, h', hx.2⟩
  | leave b next s => exact ⟨refl s hs, hx.2 _⟩

end Keeps

/-! ## Letting a program go on -/

/-- A program makes any number of moves without the others, from a holder of the exclusive part and
a state to others, and tells of events. -/
inductive Goes (i : ι) {α : Type} (x : Timed ε σ α) (h : Option ι) (s : σ) :
    List ε → Timed ε σ α → Option ι → σ → Prop
  | stay : Goes i x h s [] x h s
  | go {y z : Timed ε σ α} {h₁ h₂ : Option ι} {s₁ s₂ : σ} {es fs : List ε} {k : Access}
    (before : Goes i x h s es y h₁ s₁) (move : y.Moves s₁ k fs z s₂) (access : k.Allows i h₁ h₂) :
    Goes i x h s (es ++ fs) z h₂ s₂

namespace Goes

variable {i : ι} {x y z : Timed ε σ α} {h h₁ h₂ : Option ι} {s s₁ s₂ : σ} {es fs : List ε}
  {k : Access}

/-- A move that tells of nothing. -/
theorem quiet (hx : Goes i x h s es y h₁ s₁) (move : y.Moves s₁ k [] z s₂)
    (access : k.Allows i h₁ h₂) : Goes i x h s es z h₂ s₂ := by
  simpa only [List.append_nil] using hx.go move access

theorem one (move : x.Moves s k es y s₁) (access : k.Allows i h h₁) : Goes i x h s es y h₁ s₁ :=
  .go .stay move access

theorem trans (hx : Goes i x h s es y h₁ s₁) (hy : Goes i y h₁ s₁ fs z h₂ s₂) :
    Goes i x h s (es ++ fs) z h₂ s₂ := by
  induction hy with
  | stay => rwa [List.append_nil]
  | go _ move access ih =>
    rw [← List.append_assoc]
    exact ih.go move access

theorem under (g : Guard) (next : Except Interruption α → Timed ε σ β)
    (hx : Goes i x h s es y h₁ s₁) :
    Goes i (.guarded g x next) h s es (.guarded g y next) h₁ s₁ := by
  induction hx with
  | stay => exact .stay
  | go _ move access ih => exact ih.go (.under g next move) access

theorem inside (next : α → Timed ε σ β) (hx : Goes i x h s es y h₁ s₁) :
    Goes i (.exclusive x next) (some i) s es (.exclusive y next) (some i) s₁ := by
  induction hx with
  | stay => exact .stay
  | go _ move _ ih => exact ih.go (.inside next move) .inside

/-- An event is told before the first move, or together with it if that is a step. -/
theorem emit (e : ε) (hx : Goes i x h s es y h₁ s₁) (hy : y.isStep = false) :
    Goes i (.emit e x) h s (e :: es) y h₁ s₁ := by
  have told : Goes i (.emit e x) h s (e :: es) y h₁ s₁ ∨
      es = [] ∧ y = x ∧ h₁ = h ∧ s₁ = s := by
    clear hy
    -- What is told first comes with the first move, so it has to be tracked whether there was one.
    induction hx with
    | stay => exact .inr ⟨rfl, rfl, rfl, rfl⟩
    | @go y z _ _ _ _ _ _ _ _ move access ih =>
      obtain ih | ⟨rfl, rfl, rfl, rfl⟩ := ih
      · exact .inl (ih.go move access)
      · refine .inl ?_
        cases hs : y.isStep with
        | false => exact (one (.tell e hs _) (.free _)).go move access
        | true =>
          cases y with
          | step act next =>
            cases move
            exact one (.announce e act next _) access
          | _ => cases hs
  obtain told | ⟨rfl, rfl, rfl, rfl⟩ := told
  · exact told
  · exact one (.tell e hy _) (.free _)

end Goes

/-- Whether the program is in the exclusive part, or about to enter it. -/
def isExclusive {α : Type} : Timed ε σ α → Bool
  | .exclusive .. => true
  | .guarded _ body _ => body.isExclusive
  | _ => false

/-- A program that is in the exclusive part stays there, or leaves it or gives it up. -/
theorem Moves.isExclusive {x x' : Timed ε σ α} {s s' : σ} {k : Access} {es : List ε}
    (move : x.Moves s k es x' s') :
    (x.isExclusive = true → k ≠ .free) ∧ (k = .enter ∨ k = .inside → x'.isExclusive = true) := by
  induction move with
  | under g next _ ih => exact ih
  | step | announce | tell | wake | ended => exact ⟨nofun, by simp⟩
  | cut | leave => exact ⟨fun _ => nofun, by simp⟩
  | enter | inside => exact ⟨fun _ => nofun, fun _ => rfl⟩

/-- While a program goes on without the others nobody is in the exclusive part but the program
itself. -/
theorem Goes.holder {i : ι} {x y : Timed ε σ α} {h : Option ι} {s s' : σ} {es : List ε}
    (goes : Goes i x none s es y h s') : h = none ∨ h = some i ∧ y.isExclusive = true := by
  induction goes with
  | stay => exact .inl rfl
  | go _ move access ih =>
    obtain ⟨hfree, hin⟩ := move.isExclusive
    cases access with
    | free holder => exact ih.imp_right fun hy => absurd rfl (hfree hy.2)
    | enter => exact .inr ⟨rfl, hin (.inl rfl)⟩
    | inside => exact .inr ⟨rfl, hin (.inr rfl)⟩
    | leave | giveUp => exact .inl rfl
    | giveUp_outside hi => exact .inl (ih.resolve_right fun hy => hi hy.1)

/-- A program that has come to its end has left the exclusive part free. -/
theorem Goes.free_of_done {i : ι} {x : Timed ε σ α} {a : α} {h : Option ι} {s s' : σ} {es : List ε}
    (goes : Goes i x none s es (.done a) h s') : h = none :=
  goes.holder.resolve_right fun hy => nomatch hy.2

/-- Where a program is that has been run without the others: at its end, or waiting. -/
def Rests (i : ι) (finished : Option (α × Tick)) (y : Timed ε σ α) (h : Option ι) : Prop :=
  match finished with
  | some (a, _) => y = .done a ∧ h = none
  | none => y.isReady = false ∧ (h = none ∨ h = some i)

theorem Rests.not_isStep {i : ι} {finished : Option (α × Tick)} {y : Timed ε σ α} {h : Option ι}
    (hy : Rests i finished y h) : y.isStep = false := by
  cases y with
  | step =>
    obtain _ | ⟨a, t⟩ := finished
    · cases hy.1
    · cases hy.1
  | _ => rfl

/-- What a run of the program does its moves do. -/
def RunGoes (i : ι) (x : Timed ε σ α) (horizon : Option Tick) (t : Tick) (s : σ) : Prop :=
  ∃ y h, Goes i x none s (x.run horizon t s).events y h (x.run horizon t s).state ∧
    Rests i (x.run horizon t s).finished y h

theorem runGoes_guarded {i : ι} (g : Guard) {body : Timed ε σ β}
    {next : Except Interruption β → Timed ε σ α} {horizon : Option Tick} {t : Tick} {s : σ}
    (ht : isSeen horizon t = true)
    (hb : ∀ nearby, isSeen nearby t = true → RunGoes i body nearby t s)
    (hn : ∀ r u s, isSeen horizon u = true → RunGoes i (next r) horizon u s) :
    RunGoes i (.guarded g body next) horizon t s := by
  have outside : Access.giveUp.Allows i none none :=
    .giveUp_outside (Option.some_ne_none i).symm
  rw [RunGoes, show Timed.guarded g body next = (under g body).bind next from rfl, run_bind]
  cases hg : g.isCancelled t with
  | true =>
    obtain ⟨y, h, hn, hy⟩ := hn (.error .cancelled) t s ht
    have hc : g.mayCut body.isReady .cancelled = true := by
      rw [Guard.isCancelled] at hg
      exact Option.isSome_of_any hg
    rw [run_under_of_isCancelled hg]
    exact ⟨y, h, (Goes.one (.cut hc next s) outside).trans hn, hy⟩
  | false =>
    obtain ⟨nearby, hs, -, ending, he, hr⟩ := run_under hg ht body s
    obtain ⟨y, h, hb, hy⟩ := hb nearby hs
    rw [hr]
    generalize body.run nearby t s = o at *
    obtain ⟨finished, s₁, es⟩ := o
    cases he with
    | done b u _ seen _ =>
      obtain ⟨rfl, rfl⟩ := hy
      obtain ⟨z, h, hn, hz⟩ := hn (.ok b) u s₁ seen
      exact ⟨z, h, ((hb.under g next).quiet (.ended g b next s₁) (.free none)).trans hn, hz⟩
    | cut why cut alarm seen =>
      obtain ⟨z, h, hn, hz⟩ := hn (.error why) cut s₁ seen
      have hc : g.mayCut y.isReady why = true := hy.1 ▸ Guard.mayCut_of_alarm alarm
      refine ⟨z, h, ((hb.under g next).quiet (.cut hc next s₁) ?_).trans hn, hz⟩
      -- The part gives up the exclusive part if it has come to be inside.
      obtain rfl | rfl := hy.2
      · exact outside
      · exact .giveUp
    | waiting _ => exact ⟨_, h, hb.under g next, hy⟩

theorem runGoes_exclusive {i : ι} {body : Timed ε σ β} {next : β → Timed ε σ α}
    {horizon : Option Tick} {t : Tick} {s : σ} (ht : isSeen horizon t = true)
    (hb : RunGoes i body horizon t s)
    (hn : ∀ b u s, isSeen horizon u = true → RunGoes i (next b) horizon u s) :
    RunGoes i (.exclusive body next) horizon t s := by
  obtain ⟨y, h, hg, hy⟩ := hb
  have hb := (Goes.one (.enter body next s) .enter).trans (hg.inside next)
  have hs (b : β) (u : Tick) : (body.run horizon t s).finished = some (b, u) →
      isSeen horizon u = true := fun hf => (run_seen body ht hf).2
  simp only [RunGoes, run]
  generalize body.run horizon t s = o at *
  obtain ⟨_ | ⟨b, u⟩, s₁, es⟩ := o
  · exact ⟨_, some i, hb, rfl, .inr rfl⟩
  · obtain ⟨rfl, rfl⟩ := hy
    obtain ⟨z, h, hn, hz⟩ := hn b u s₁ (hs b u rfl)
    exact ⟨z, h, (hb.quiet (.leave b next s₁) .leave).trans hn, hz⟩

theorem goes_run (i : ι) (x : Timed ε σ α) {horizon : Option Tick} {t : Tick}
    (ht : isSeen horizon t = true) (s : σ) : RunGoes i x horizon t s := by
  induction x generalizing horizon t s with
  | done a => exact ⟨_, none, .stay, rfl, rfl⟩
  | step act next ih =>
    obtain ⟨y, h, hg, hy⟩ := ih (act s).1 ht (act s).2
    exact ⟨y, h, (Goes.one (.step act next s) (.free none)).trans hg, hy⟩
  | emit e next ih =>
    obtain ⟨y, h, hg, hy⟩ := ih ht s
    exact ⟨y, h, hg.emit e hy.not_isStep, hy⟩
  | wait ms next ih =>
    simp only [RunGoes, run]
    split
    · rename_i hw
      obtain ⟨y, h, hg, hy⟩ := ih hw s
      exact ⟨y, h, (Goes.one (.wake ms next s) (.free none)).trans hg, hy⟩
    · exact ⟨_, none, .stay, rfl, .inl rfl⟩
  | never => exact ⟨_, none, .stay, rfl, .inl rfl⟩
  | guarded g body next ihb ihn =>
    exact runGoes_guarded g ht (fun _ hn => ihb hn s) fun r _ s hu => ihn r hu s
  | exclusive body next ihb ihn =>
    exact runGoes_exclusive ht (ihb ht s) fun b _ s hu => ihn b hu s

/-- The next move of a program, if it needs neither time nor the exclusive part. -/
def next? {α : Type} : Timed ε σ α → σ → Option (Timed ε σ α × List ε × σ)
  | .step act next, s => some (next (act s).1, [], (act s).2)
  | .emit e (.step act next), s => some (next (act s).1, [e], (act s).2)
  | .emit e x, s => some (x, [e], s)
  | .guarded _ (.done b) next, s => some (next (.ok b), [], s)
  | .guarded g x next, s => (x.next? s).map fun r => (.guarded g r.1 next, r.2)
  | _, _ => none

theorem moves_of_next? {x x' : Timed ε σ α} {s s' : σ} {es : List ε}
    (h : x.next? s = some (x', es, s')) : x.Moves s .free es x' s' := by
  induction x generalizing s s' es with
  | step act next =>
    cases h
    exact .step act next s
  | emit e x =>
    cases x with
    | step act next =>
      cases h
      exact .announce e act next s
    | _ =>
      cases h
      exact .tell e rfl s
  | guarded g body next ih =>
    cases body with
    | done b =>
      cases h
      exact .ended g b next s
    | _ =>
      simp only [next?, Option.map_eq_some_iff] at h
      obtain ⟨⟨y, es', t⟩, hy, heq⟩ := h
      cases heq
      exact .under g next (ih hy)
  | done | wait | never | exclusive => cases h

end Timed

namespace Crowd

variable [DecidableEq ι] {drift : σ → σ → Prop}

/-- The crowd after a client has gone on. -/
def put (c : Crowd ε σ ans) (i : ι) (es : List ε) (y : Timed ε σ (ans i)) (h : Option ι) (s : σ) :
    Crowd ε σ ans where
  programs j := if hj : j = i then hj ▸ y else c.programs j
  holder := h
  state := s
  log := c.log ++ es.map fun e => (i, e)

theorem programs_put (c : Crowd ε σ ans) (i : ι) (es : List ε) (y : Timed ε σ (ans i))
    (h : Option ι) (s : σ) : (c.put i es y h s).programs i = y := dif_pos rfl

theorem put_self (c : Crowd ε σ ans) (i : ι) :
    c.put i [] (c.programs i) c.holder c.state = c := by
  have hp : (fun j => if hj : j = i then hj ▸ c.programs i else c.programs j) = c.programs := by
    funext j
    split
    · rename_i hj
      subst hj
      rfl
    · rfl
  simp only [put, hp, List.map_nil, List.append_nil]

theorem put_put (c : Crowd ε σ ans) (i : ι) (es fs : List ε) (y z : Timed ε σ (ans i))
    (h h' : Option ι) (s s' : σ) :
    (c.put i es y h s).put i fs z h' s' = c.put i (es ++ fs) z h' s' := by
  have hp : (fun j => if hj : j = i then hj ▸ z else (c.put i es y h s).programs j) =
      (c.put i (es ++ fs) z h' s').programs := by
    funext j
    by_cases hj : j = i <;> simp only [put, hj, dif_pos, dif_neg, not_false_eq_true]
  rw [put, hp]
  simp only [put, List.map_append, List.append_assoc]

theorem step_put (c : Crowd ε σ ans) {i : ι} {es : List ε} {y : Timed ε σ (ans i)}
    {h : Option ι} {s : σ} {k : Access} (move : (c.programs i).Moves c.state k es y s)
    (access : k.Allows i c.holder h) : Step drift c (c.put i es y h s) :=
  .client i (by rwa [programs_put]) (fun _ hj => dif_neg hj) access rfl

/-- A client may go on while the others wait for their turns. -/
theorem reaches_goes (c : Crowd ε σ ans) {i : ι} {es : List ε} {y : Timed ε σ (ans i)}
    {h : Option ι} {s : σ} (goes : (c.programs i).Goes i c.holder c.state es y h s) :
    Reaches drift c (c.put i es y h s) := by
  induction goes with
  | stay =>
    rw [put_self]
    exact .refl
  | go _ move access ih =>
    rw [← put_put]
    exact ih.tail (step_put _ (by rwa [programs_put]) access)

/-- To let one client run alone is one way for the crowd to go. -/
theorem reaches_run (c : Crowd ε σ ans) {i : ι} (free : c.holder = none) {t u : Tick}
    {a : ans i} {s : σ} {es : List ε}
    (run : (c.programs i).run none t c.state = ⟨some (a, u), s, es⟩) :
    Reaches drift c (c.put i es (.done a) none s) := by
  have seen : Timed.isSeen none t = true := rfl
  obtain ⟨y, h, goes, rests⟩ := Timed.goes_run i (c.programs i) seen c.state
  rw [run] at goes rests
  obtain ⟨rfl, rfl⟩ := rests
  exact c.reaches_goes (free ▸ goes)

/-- The crowd after a client has made its next move, if it has one. -/
def turn (c : Crowd ε σ ans) (i : ι) : Crowd ε σ ans :=
  match (c.programs i).next? c.state with
  | none => c
  | some (x, es, s) => c.put i es x c.holder s

/-- Clients may take turns in any order. -/
theorem reaches_turns (c : Crowd ε σ ans) (is : List ι) : Reaches drift c (is.foldl turn c) := by
  refine List.foldlRecOn is _ (motive := Reaches drift c) .refl fun d hd i _ => ?_
  unfold turn
  split
  · exact hd
  · rename_i h
    exact hd.tail (d.step_put (Timed.moves_of_next? h) (.free _))

end Crowd

end KvBridge
