import KvBridge.Failure
import KvBridge.Timed.Basic
import KvBridge.Time.Duration

/-!
# The context of a call

A caller may cancel a call and may set it a deadline. Work that is done within a context fails with
`Failure.cancelled` or `Failure.timeout` when it is cut short. A call that is cancelled beforehand
does not start its work.

* `Context.within`: work under the cancellation and the deadline of a context;
* `Context.sleep`: a pause that only a cancellation cuts short.
-/

namespace KvBridge

/-- The tick from which on a call is cancelled, and the time that it may take. -/
structure Context where
  cancelledAt : Option Tick := none
  timeout : Option Duration := none
deriving DecidableEq, Repr

namespace Context

variable {ε σ α : Type}

/-- The context with a deadline, unless it has one already. -/
def orTimeout (ctx : Context) (timeout : Duration) : Context :=
  { ctx with timeout := ctx.timeout.or (some timeout) }

def isCancelled (ctx : Context) (t : Tick) : Bool := ctx.cancelledAt.any (· ≤ t)

/-- The context of a call among others that run side by side. There a cancellation comes before
all else in its millisecond. -/
def amongOthers (ctx : Context) : Context :=
  { ctx with cancelledAt := ctx.cancelledAt.map fun t => Tick.ofMillis t.millis }

/-- When work within the context is cut short. -/
def guard (ctx : Context) : Guard := ⟨ctx.cancelledAt, ctx.timeout.map Duration.timerMillis⟩

/-- What a caller is told of an interruption. -/
def failure (ctx : Context) : Interruption → Failure
  | .cancelled => .cancelled
  | .expired => .timeout ((ctx.timeout.map Duration.wholeMillis).getD 0)

/-- What a caller is told of work that was done or cut short. -/
def settle (ctx : Context) : Except Interruption (Except Failure α) → Except Failure α
  | .ok r => r
  | .error why => .error (ctx.failure why)

/-- Work under the cancellation and the deadline of the context. -/
def within (ctx : Context) (body : Timed ε σ (Except Failure α)) :
    Timed ε σ (Except Failure α) :=
  .guarded ctx.guard body fun r => .done (ctx.settle r)

/-- A pause that a cancellation cuts short. The deadline does not count. -/
def sleep (ctx : Context) (d : Duration) : Timed ε σ (Except Failure Unit) :=
  ({ ctx with timeout := none } : Context).within (.wait d.timerMillis (.done (.ok ())))

end Context

end KvBridge
