import KvBridge.Timed.Basic

/-!
# Programs side by side

Several programs on one state take turns. A program keeps its turn until it has to wait: for a time
to come, or for another program to leave its exclusive part. Such parts are entered in the order in
which the programs came to them. When a tick comes, the programs that have set a time for it take
their turns first, in the order in which they set it; a guard sets its time when its part starts.

* `Suspended`: a program that waits;
* `Timed.start`, `Suspended.resume`: a turn;
* `Pool.run`: all turns of the programs of a pool.
-/

namespace KvBridge

/-- Who is in the exclusive part, and behind it who waits for it. -/
structure Lock where
  queue : List Nat := []
  next : Nat := 0
deriving DecidableEq, Repr

namespace Lock

/-- Comes to the exclusive part and takes a place in the queue. -/
def enter (l : Lock) : Nat × Lock := (l.next, ⟨l.queue ++ [l.next], l.next + 1⟩)

/-- Whether a place has come to the front. -/
def admits (l : Lock) (place : Nat) : Bool := l.queue.head? == some place

/-- Leaves the exclusive part, or the queue. -/
def leave (l : Lock) (place : Nat) : Lock := { l with queue := l.queue.filter (· != place) }

end Lock

/-- A program that waits: for a tick, for ever, for the exclusive part, inside it, or under a
guard. Waits and guards have the number of the turn in which they began. -/
inductive Suspended (ε σ : Type) : Type → Type 1
  | waiting {α : Type} (since : Nat) (wake : Tick) (next : Timed ε σ α) : Suspended ε σ α
  | never {α : Type} : Suspended ε σ α
  | queued {α β : Type} (place : Nat) (body : Timed ε σ β) (next : β → Timed ε σ α) :
      Suspended ε σ α
  | inside {α β : Type} (place : Nat) (body : Suspended ε σ β) (next : β → Timed ε σ α) :
      Suspended ε σ α
  | guarded {α β : Type} (since : Nat) (alarm : Option (Interruption × Tick))
      (body : Suspended ε σ β) (next : Except Interruption β → Timed ε σ α) : Suspended ε σ α

/-- Where a program is after a turn. -/
inductive Progress (ε σ α : Type) : Type 1
  | finished (a : α)
  | suspended (x : Suspended ε σ α)

/-- What a turn leaves: where the program is, whether it moved at all, and the events. -/
structure Turn (ε σ α : Type) : Type 1 where
  progress : Progress ε σ α
  moved : Bool
  lock : Lock
  state : σ
  events : List ε

namespace Turn

variable {ε σ α β : Type}

/-- The turn goes on after its first part. -/
def andThen (turn : Turn ε σ α) (next : α → Lock → σ → Turn ε σ β)
    (wait : Suspended ε σ α → Suspended ε σ β) : Turn ε σ β :=
  match turn.progress with
  | .finished a =>
    let rest := next a turn.lock turn.state
    { rest with moved := true, events := turn.events ++ rest.events }
  | .suspended x => ⟨.suspended (wait x), turn.moved, turn.lock, turn.state, turn.events⟩

end Turn

namespace Suspended

variable {ε σ : Type}

/-- Leaves the exclusive part and its queue: the program is given up. -/
def leave {α : Type} (x : Suspended ε σ α) (l : Lock) : Lock :=
  match x with
  | .waiting .. | .never => l
  | .queued place _ _ => l.leave place
  | .inside place body _ => (body.leave l).leave place
  | .guarded _ _ body _ => body.leave l

/-- The next tick at which the program may move of itself. -/
def wake? {α : Type} : Suspended ε σ α → Option Tick
  | .waiting _ wake _ => some wake
  | .never | .queued .. => none
  | .inside _ body _ => body.wake?
  | .guarded _ none body _ => body.wake?
  | .guarded _ (some (_, cut)) body _ => some ((body.wake?.map (min cut)).getD cut)

/-- The turn in which the program first set a time that has come at a tick. -/
def dueSince? {α : Type} (t : Tick) : Suspended ε σ α → Option Nat
  | .waiting since wake _ => if wake ≤ t then some since else none
  | .never | .queued .. => none
  | .inside _ body _ => body.dueSince? t
  | .guarded since alarm body _ =>
    if alarm.any fun (_, cut) => cut ≤ t then some (((body.dueSince? t).map (min since)).getD since)
    else body.dueSince? t

end Suspended

/-- Starts a program in the turn of a number and lets it go on until it has to wait. -/
def Timed.start {ε σ α : Type} (x : Timed ε σ α) (number : Nat) (t : Tick) (l : Lock) (s : σ) :
    Turn ε σ α :=
  match x with
  | .done a => ⟨.finished a, true, l, s, []⟩
  | .step act next => let (b, s) := act s; (next b).start number t l s
  | .emit e next =>
    let rest := next.start number t l s
    { rest with events := e :: rest.events }
  | .wait 0 next => next.start number t l s
  | .wait ms next =>
    ⟨.suspended (.waiting number (t + Tick.ofMillis ms) next), true, l, s, []⟩
  | .never => ⟨.suspended .never, true, l, s, []⟩
  | .guarded g body next =>
    if g.isCancelled t then (next (.error .cancelled)).start number t l s
    else
      let turn := body.start number t l s
      match turn.progress, g.alarm t with
      | .suspended x, some (why, cut) =>
        if cut ≤ t then
          let rest := (next (.error why)).start number t (x.leave turn.lock) turn.state
          { rest with events := turn.events ++ rest.events }
        else ⟨.suspended (.guarded number (some (why, cut)) x next), true, turn.lock, turn.state,
          turn.events⟩
      | _, alarm =>
        turn.andThen (fun b l s => (next (.ok b)).start number t l s)
          (.guarded number alarm · next)
  | .exclusive body next =>
    let (place, l) := l.enter
    if l.admits place then
      (body.start number t l s).andThen
        (fun b l s => (next b).start number t (l.leave place) s) (.inside place · next)
    else ⟨.suspended (.queued place body next), true, l, s, []⟩

/-- Lets a program go on in the turn of a number if what it waits for has come. A part whose last
tick has passed does not go on. -/
def Suspended.resume {ε σ α : Type} (x : Suspended ε σ α) (number : Nat) (t : Tick) (l : Lock)
    (s : σ) : Turn ε σ α :=
  match x with
  | .waiting since wake next =>
    if wake ≤ t then next.start number t l s
    else ⟨.suspended (.waiting since wake next), false, l, s, []⟩
  | .never => ⟨.suspended .never, false, l, s, []⟩
  | .queued place body next =>
    if l.admits place then
      (body.start number t l s).andThen
        (fun b l s => (next b).start number t (l.leave place) s) (.inside place · next)
    else ⟨.suspended (.queued place body next), false, l, s, []⟩
  | .inside place body next =>
    (body.resume number t l s).andThen
      (fun b l s => (next b).start number t (l.leave place) s) (.inside place · next)
  | .guarded since alarm body next =>
    match alarm.filter fun (why, cut) => why.lastTick cut < t with
    | some (why, _) =>
      { (next (.error why)).start number t (body.leave l) s with moved := true }
    | none =>
      let turn := body.resume number t l s
      match turn.progress, alarm with
      | .suspended x, some (why, cut) =>
        if cut ≤ t then
          let rest := (next (.error why)).start number t (x.leave turn.lock) turn.state
          { rest with moved := true, events := turn.events ++ rest.events }
        else ⟨.suspended (.guarded since (some (why, cut)) x next), turn.moved, turn.lock,
          turn.state, turn.events⟩
      | _, alarm =>
        turn.andThen (fun b l s => (next (.ok b)).start number t l s) (.guarded since alarm · next)

/-- Programs that take turns: those that wait, in the order in which they will be asked whether they
can go on, the answers of those that have ended, and how many turns have been taken. -/
structure Pool (ε σ α : Type) : Type 1 where
  waiting : List (Nat × Suspended ε σ α) := []
  answers : List (Nat × α) := []
  turns : Nat := 0
  lock : Lock := {}
  state : σ
  events : List ε := []

namespace Pool

variable {ε σ α : Type}

/-- Takes in what a turn of the program of a number has left. -/
def take (p : Pool ε σ α) (number : Nat) (turn : Turn ε σ α) : Pool ε σ α :=
  let p := { p with
    turns := p.turns + 1, lock := turn.lock, state := turn.state
    events := p.events ++ turn.events }
  match turn.progress with
  | .finished a => { p with answers := p.answers ++ [(number, a)] }
  | .suspended x => { p with waiting := p.waiting ++ [(number, x)] }

/-- Starts programs, one after the other. -/
def start (t : Tick) : (number : Nat) → List (Timed ε σ α) → Pool ε σ α → Pool ε σ α
  | _, [], p => p
  | number, x :: xs, p =>
    start t (number + 1) xs (p.take number (x.start p.turns t p.lock p.state))

/-- Gives each of the programs a turn. Those that do not move keep their places before the
others. -/
def round (t : Tick) : List (Nat × Suspended ε σ α) → (stay : List (Nat × Suspended ε σ α)) →
    Pool ε σ α → Bool × Pool ε σ α
  | [], stay, p => (false, { p with waiting := stay ++ p.waiting })
  | (number, x) :: xs, stay, p =>
    let turn := x.resume p.turns t p.lock p.state
    if turn.moved then
      (true, (round t xs stay (p.take number turn)).2)
    else round t xs (stay ++ [(number, x)]) p

/-- The next tick at which a program may move. -/
def wake? (p : Pool ε σ α) : Option Tick := (p.waiting.filterMap fun w => w.2.wake?).min?

/-- Puts the programs that have set a time for a tick before the others, in the order in which they
set it. -/
def callUp (p : Pool ε σ α) (t : Tick) : Pool ε σ α :=
  let due := p.waiting.filterMap fun w => (w.2.dueSince? t).map fun since => (since, w)
  let rest := p.waiting.filter fun w => (w.2.dueSince? t).isNone
  { p with waiting := (due.mergeSort fun a b => a.1 ≤ b.1).map (·.2) ++ rest }

/-- Gives turns, at most `fuel` rounds of them, until every program has ended or none can move
before the horizon. The tick is that of the last turn. -/
def finish (horizon : Tick) : (fuel : Nat) → Tick → Pool ε σ α → Tick × Pool ε σ α
  | 0, t, p => (t, p)
  | fuel + 1, t, p =>
    let (moved, p) := round t p.waiting [] { p with waiting := [] }
    if p.waiting.isEmpty then (t, p)
    else if moved then finish horizon fuel t p
    else
      match p.wake? with
      | none => (t, p)
      | some wake =>
        if wake ≤ horizon then finish horizon fuel wake (p.callUp wake) else (t, p)

/-- Runs programs side by side. -/
def run (horizon : Tick) (fuel : Nat) (programs : List (Timed ε σ α)) (s : σ) :
    Tick × Pool ε σ α :=
  finish horizon fuel 0 (start 0 0 programs { state := s })

/-- The answer of the program of a number, if it has ended. -/
def answer? (p : Pool ε σ α) (number : Nat) : Option α := p.answers.lookup number

end Pool

end KvBridge
