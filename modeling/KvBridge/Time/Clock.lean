import KvBridge.Time.Duration

/-!
# Clocks that are set by hand

A reading is a number of milliseconds in 64 bits. A clock moves only when it is moved; several
handles may show one clock.

* `Reading.advance`: moving on, which wraps around at 2⁶⁴;
* `Reading.expiresAt`: the deadline of a span that starts now, which stops at 2⁶⁴ - 1;
* `Clocks`: clocks and the handles that show them.
-/

namespace KvBridge

/-- Milliseconds since the start of the epoch. -/
abbrev Reading := UInt64

namespace Reading

/-- The reading after a span has passed. -/
def advance (now : Reading) (by' : Duration) : Reading := now + by'.wholeMillis

/-- The reading at which a span that starts now has passed. -/
def expiresAt (now : Reading) (ttl : Duration) : Reading :=
  UInt64.ofNat (min (now.toNat + ttl.wholeMillis.toNat) (UInt64.size - 1))

theorem toNat_expiresAt (now : Reading) (ttl : Duration) :
    (now.expiresAt ttl).toNat = min (now.toNat + ttl.wholeMillis.toNat) (UInt64.size - 1) := by
  rw [expiresAt, UInt64.toNat_ofNat', UInt64.size]
  omega

end Reading

/-- Clocks, and for each handle the clock that it shows. -/
structure Clocks where
  readings : List Reading
  handles : List Nat
deriving Repr

namespace Clocks

/-- One clock with one handle. -/
def start (reading : Reading) : Clocks := ⟨[reading], [0]⟩

/-- What a handle shows. -/
def now (c : Clocks) (handle : Nat) : Reading :=
  c.readings.getD (c.handles.getD handle 0) 0

/-- What the handles show, in order. -/
def all (c : Clocks) : List Reading := (List.range c.handles.length).map c.now

/-- Changes the clock that a handle shows, for all its handles. -/
def update (c : Clocks) (handle : Nat) (f : Reading → Reading) : Clocks :=
  { c with readings := c.readings.modify (c.handles.getD handle 0) f }

/-- Another handle of the clock that a handle shows. -/
def share (c : Clocks) (handle : Nat) : Clocks :=
  { c with handles := c.handles ++ [c.handles.getD handle 0] }

/-- Another clock with a handle of its own. -/
def add (c : Clocks) (reading : Reading) : Clocks :=
  ⟨c.readings ++ [reading], c.handles ++ [c.readings.length]⟩

end Clocks

end KvBridge
