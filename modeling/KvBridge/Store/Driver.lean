import KvBridge.Event
import KvBridge.Time.Clock

/-!
# Drivers

A driver takes the commands to a store. It works on a state of its own, in which the reading of a
clock may stand.

* `Driver`: a name, whether conditional writes are atomic, and what each command does;
* `Clocked.driver`: a driver whose commands take no time;
* `Driver.zoom`: a driver on a part of a state.
-/

namespace KvBridge

/-- A driver on states `δ`. -/
structure Driver (δ : Type) where
  name : String
  atomicSwap : Bool
  call : (c : Command) → Program δ (Except Cause c.Reply)

/-- The driver on a part of a state. -/
def Driver.zoom {δ σ : Type} (d : Driver δ) (get : σ → δ) (put : δ → σ → σ) : Driver σ where
  name := d.name
  atomicSwap := d.atomicSwap
  call c := (d.call c).zoom get put

/-- A store and the reading of its clock. -/
structure Clocked (β : Type) where
  now : Reading
  store : β

/-- A driver each of whose commands is done at one go, at the reading of the clock. -/
def Clocked.driver {β : Type} (name : String) (atomicSwap : Bool)
    (exec : (c : Command) → Reading → β → Except Cause c.Reply × β) : Driver (Clocked β) where
  name := name
  atomicSwap := atomicSwap
  call c := .act fun s =>
    let (r, store) := exec c s.now s.store
    (r, { s with store := store })

end KvBridge
