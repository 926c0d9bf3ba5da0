/-!
# Programs that take time

A program works on a state, tells of what it does, waits, and cuts parts of itself short. Time is
virtual: only waiting takes any. It is counted in half milliseconds, so that a cancellation can
come before or after all else that happens in its millisecond: timers fire on even ticks, a
cancellation comes before the other work of its tick, and one in millisecond `c` counts from tick
`2 * c + 1` on for a program that runs alone.

* `Timed`: programs, as trees;
* `Timed.run`: what a program does when it starts at a tick and nothing is looked at after the
  horizon;
* `run_bind`: a sequence runs its first part, and the second from where that ends;
* `Timed.zoom`: a program on a part of a state.
-/

namespace KvBridge

/-- Half milliseconds since the start. -/
abbrev Tick := Nat

/-- The tick of a millisecond at which timers fire. -/
def Tick.ofMillis (ms : Nat) : Tick := 2 * ms

/-- The tick from which on a cancellation in a millisecond counts for a program that runs alone. -/
def Tick.ofCancellation (ms : Nat) : Tick := 2 * ms + 1

/-- The complete milliseconds. -/
def Tick.millis (t : Tick) : Nat := t / 2

/-- Why a part was cut short. -/
inductive Interruption
  | cancelled
  | expired
deriving DecidableEq, Repr

/-- When to cut a part short: from a tick on, and after so many milliseconds. -/
structure Guard where
  cancelledAt : Option Tick
  timeoutMs : Option Nat
deriving DecidableEq, Repr

namespace Guard

/-- Whether the part does not even start. -/
def isCancelled (g : Guard) (t : Tick) : Bool := g.cancelledAt.any (· ≤ t)

/-- The first cut for a part that starts at a tick. -/
def alarm (g : Guard) (t : Tick) : Option (Interruption × Tick) :=
  let deadline := g.timeoutMs.map fun ms => t + Tick.ofMillis ms
  match g.cancelledAt, deadline with
  | none, none => none
  | some c, none => some (.cancelled, c)
  | none, some d => some (.expired, d)
  | some c, some d => if c ≤ d then some (.cancelled, c) else some (.expired, d)

end Guard

/-- The last tick whose work is done in a part that is cut short at a tick. A cancellation comes
before the work of its tick, the end of a deadline after it. -/
def Interruption.lastTick (why : Interruption) (cut : Tick) : Tick :=
  match why with
  | .cancelled => cut - 1
  | .expired => cut

/-- Programs that tell of events `ε` and work on states `σ`. -/
inductive Timed (ε σ : Type) : Type → Type 1
  /-- The program is at its end. -/
  | done {α : Type} (a : α) : Timed ε σ α
  /-- Looks at the state and changes it, at one go. -/
  | step {α β : Type} (act : σ → β × σ) (next : β → Timed ε σ α) : Timed ε σ α
  /-- Tells of an event. -/
  | emit {α : Type} (e : ε) (next : Timed ε σ α) : Timed ε σ α
  /-- Waits so many milliseconds. -/
  | wait {α : Type} (ms : Nat) (next : Timed ε σ α) : Timed ε σ α
  /-- Waits for ever. -/
  | never {α : Type} : Timed ε σ α
  /-- Runs a part that a guard may cut short. What the part has done by then stays done. -/
  | guarded {α β : Type} (g : Guard) (body : Timed ε σ β)
      (next : Except Interruption β → Timed ε σ α) : Timed ε σ α
  /-- Runs a part while no other program is in such a part. -/
  | exclusive {α β : Type} (body : Timed ε σ β) (next : β → Timed ε σ α) : Timed ε σ α

namespace Timed

variable {ε σ τ α β γ : Type}

/-- One program after the other. -/
def bind {α β : Type} (x : Timed ε σ α) (f : α → Timed ε σ β) : Timed ε σ β :=
  match x with
  | .done a => f a
  | .step act next => .step act fun b => (next b).bind f
  | .emit e next => .emit e (next.bind f)
  | .wait ms next => .wait ms (next.bind f)
  | .never => .never
  | .guarded g body next => .guarded g body fun r => (next r).bind f
  | .exclusive body next => .exclusive body fun b => (next b).bind f

instance : Monad (Timed ε σ) where
  pure := .done
  bind := .bind

theorem bind_eq_bind (x : Timed ε σ α) (f : α → Timed ε σ β) : x >>= f = x.bind f := rfl

/-- Tells of an event. -/
def tell (e : ε) : Timed ε σ Unit := .emit e (.done ())

/-- Looks at the state and changes it. -/
def act (f : σ → β × σ) : Timed ε σ β := .step f .done

/-- Looks at the state. -/
def look (f : σ → β) : Timed ε σ β := .step (fun s => (f s, s)) .done

/-- Changes the state. -/
def change (f : σ → σ) : Timed ε σ Unit := .step (fun s => ((), f s)) .done

/-- Waits for a time. -/
def pause (ms : Nat) : Timed ε σ Unit := .wait ms (.done ())

/-- Runs a part that a guard may cut short. -/
def under (g : Guard) (body : Timed ε σ α) : Timed ε σ (Except Interruption α) :=
  .guarded g body .done

/-- Runs a part while no other program is in such a part. -/
def alone (body : Timed ε σ α) : Timed ε σ α := .exclusive body .done

/-- A program on a part of a state. -/
def zoom {α : Type} (get : σ → τ) (put : τ → σ → σ) : Timed ε τ α → Timed ε σ α
  | .done a => .done a
  | .step act next =>
    .step (fun s => let (b, t) := act (get s); (b, put t s)) fun b => (next b).zoom get put
  | .emit e next => .emit e (next.zoom get put)
  | .wait ms next => .wait ms (next.zoom get put)
  | .never => .never
  | .guarded g body next => .guarded g (body.zoom get put) fun r => (next r).zoom get put
  | .exclusive body next => .exclusive (body.zoom get put) fun b => (next b).zoom get put

/-! ## Running -/

/-- How a run ends: with an answer at a tick, or still waiting at the horizon; the state that it
leaves, and the events that it told of. -/
structure Outcome (ε σ α : Type) where
  finished : Option (α × Tick)
  state : σ
  events : List ε

namespace Outcome

/-- The outcome with events before it. -/
def after (o : Outcome ε σ α) (es : List ε) : Outcome ε σ α := { o with events := es ++ o.events }

@[simp] theorem after_nil (o : Outcome ε σ α) : o.after [] = o := rfl

@[simp] theorem after_after (o : Outcome ε σ α) (es fs : List ε) :
    (o.after fs).after es = o.after (es ++ fs) := by
  simp [after, List.append_assoc]

/-- Goes on where a run ended. A run that is still waiting stays so. -/
def andThen (o : Outcome ε σ α) (f : α → Tick → σ → Outcome ε σ β) : Outcome ε σ β :=
  match o.finished with
  | some (a, t) => (f a t o.state).after o.events
  | none => ⟨none, o.state, o.events⟩

theorem andThen_after (o : Outcome ε σ α) (es : List ε) (f : α → Tick → σ → Outcome ε σ β) :
    (o.after es).andThen f = (o.andThen f).after es := by
  obtain ⟨_ | ⟨a, t⟩, s, fs⟩ := o <;> simp [andThen, after]

theorem andThen_andThen (o : Outcome ε σ α) (f : α → Tick → σ → Outcome ε σ β)
    (g : β → Tick → σ → Outcome ε σ γ) :
    (o.andThen f).andThen g = o.andThen fun a t s => (f a t s).andThen g := by
  obtain ⟨_ | ⟨a, t⟩, s, fs⟩ := o
  · simp [andThen]
  · simp only [andThen]
    rw [← andThen, andThen_after]
    rfl

end Outcome

/-- Whether a tick is not beyond the horizon. -/
def isSeen (horizon : Option Tick) (t : Tick) : Bool := horizon.all (t ≤ ·)

/-- The nearer of a horizon and a tick. -/
def nearer (horizon : Option Tick) (t : Tick) : Tick := (horizon.map (min t)).getD t

/-- What a program does from a tick on. Of two cancellations at one tick the outer one comes first,
of two deadlines the inner one. -/
def run {α : Type} (x : Timed ε σ α) (horizon : Option Tick) (t : Tick) (s : σ) :
    Outcome ε σ α :=
  match x with
  | .done a => ⟨some (a, t), s, []⟩
  | .step act next => let (b, s) := act s; (next b).run horizon t s
  | .emit e next => (next.run horizon t s).after [e]
  | .wait ms next =>
    let wake := t + Tick.ofMillis ms
    if isSeen horizon wake then next.run horizon wake s else ⟨none, s, []⟩
  | .never => ⟨none, s, []⟩
  | .guarded g body next =>
    if g.isCancelled t then (next (.error .cancelled)).run horizon t s
    else
      match g.alarm t with
      | none => (body.run horizon t s).andThen fun b t s => (next (.ok b)).run horizon t s
      | some (why, cut) =>
        let o := body.run (some (nearer horizon (why.lastTick cut))) t s
        match o.finished with
        | some (b, t) => ((next (.ok b)).run horizon t o.state).after o.events
        | none =>
          if isSeen horizon cut then
            ((next (.error why)).run horizon cut o.state).after o.events
          else ⟨none, o.state, o.events⟩
  | .exclusive body next =>
    (body.run horizon t s).andThen fun b t s => (next b).run horizon t s

/-- A sequence runs its first part, and its second part from where the first ends. -/
theorem run_bind {α β : Type} (x : Timed ε σ α) (f : α → Timed ε σ β) (horizon : Option Tick)
    (t : Tick) (s : σ) :
    (x.bind f).run horizon t s =
      (x.run horizon t s).andThen fun a t s => (f a).run horizon t s := by
  induction x generalizing t s with
  | done a => simp [bind, run, Outcome.andThen]
  | step act next ih => simp only [bind, run, ih]
  | emit e next ih => simp only [bind, run, ih, Outcome.andThen_after]
  | wait ms next ih =>
    simp only [bind, run]
    split
    · rw [ih]
    · simp [Outcome.andThen]
  | never => simp [bind, run, Outcome.andThen]
  | guarded g body next _ ih =>
    simp only [bind, run, ih]
    split
    · rfl
    · split
      · rw [Outcome.andThen_andThen]
      · split
        · rw [Outcome.andThen_after]
        · split
          · rw [Outcome.andThen_after]
          · simp [Outcome.andThen]
  | exclusive body next _ ih =>
    simp only [bind, run, ih, Outcome.andThen_andThen]

end Timed

end KvBridge
