/-!
# Numbered identifiers

A source hands out a stem and a running number, which starts at one and wraps around at 2⁶⁴.

* `IdSource.draw`: the next identifier and the source after it.
-/

namespace KvBridge

/-- A source of identifiers with a common stem. -/
structure IdSource where
  stem : String
  next : UInt64 := 1
deriving DecidableEq, Repr

namespace IdSource

/-- The identifier of a number. -/
def name (stem : String) (n : UInt64) : String := stem ++ "-" ++ toString n

/-- Hands out an identifier. -/
def draw (ids : IdSource) : String × IdSource :=
  (name ids.stem ids.next, { ids with next := ids.next + 1 })

/-- Hands out several identifiers. -/
def drawMany (ids : IdSource) : (count : Nat) → List String × IdSource
  | 0 => ([], ids)
  | count + 1 =>
    let (id, ids) := ids.draw
    let (rest, ids) := ids.drawMany count
    (id :: rest, ids)

end IdSource

end KvBridge
