import KvBridge.Failure
import KvBridge.Store.Command
import KvBridge.Store.Statement
import KvBridge.Stream.Request
import KvBridge.Timed.Basic

/-!
# What can be observed of a call

While a call runs it tells of the commands that reach a driver, of what is worth a line in a log,
of the end of each operation, and of what goes out to a database or a service.

* `Event`: what is told;
* `observed`: an operation that tells how it ended.
-/

namespace KvBridge

/-- How much a line in a log matters. -/
inductive Level
  | info
  | warn
deriving DecidableEq, Repr

def Level.name : Level → String
  | .info => "info"
  | .warn => "warn"

/-- What a call tells of. -/
inductive Event
  /-- A connection gives a command to its driver. -/
  | command (c : Command)
  /-- A line in a log. -/
  | notice (level : Level) (text : String)
  /-- An operation ended. -/
  | ended (component operation outcome : String)
  /-- A database client signs in. -/
  | login (user password database : String)
  /-- A statement is executed. -/
  | statement (s : Statement)
  /-- A request is posted. -/
  | post (r : Stream.Request)

/-- The label of a result. -/
def outcomeLabel {α : Type} : Except Failure α → String
  | .ok _ => "ok"
  | .error .keyNotFound => "not_found"
  | .error .keyAlreadyExists => "exists"
  | .error .cancelled => "cancelled"
  | .error (.timeout _) => "timeout"
  | .error _ => "error"

/-- Programs of this library. -/
abbrev Program (σ α : Type) := Timed Event σ α

/-- Programs that may fail. -/
abbrev Call (σ : Type) := ExceptT Failure (Timed Event σ)

variable {σ α : Type}

/-- A line in the log. -/
def notice (level : Level) (text : String) : Program σ Unit := .tell (.notice level text)

/-- An operation that tells how it ended. -/
def observed (component operation : String) (body : Call σ α) : Call σ α :=
  ExceptT.mk do
    let r ← body.run
    Timed.tell (.ended component operation (outcomeLabel r))
    return r

end KvBridge
