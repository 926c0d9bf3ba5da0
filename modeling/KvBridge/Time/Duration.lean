/-!
# Spans of time

A span is a whole number of nanoseconds. Deadlines are stored in whole milliseconds, rounded down
and no larger than 64 bits; timers run in whole milliseconds, rounded up.

* `Duration.wholeMillis`: the milliseconds that are complete, at most 2⁶⁴ - 1;
* `Duration.timerMillis`: the milliseconds after which a timer of that length fires;
* `Duration.render`: the text of a span, in the largest unit that it fills.
-/

namespace KvBridge

/-- A span of time in nanoseconds. -/
structure Duration where
  nanos : Nat
deriving DecidableEq, Repr

namespace Duration

def ofMillis (ms : Nat) : Duration := ⟨ms * 1000000⟩

/-- The complete seconds. -/
def seconds (d : Duration) : Nat := d.nanos / 1000000000

/-- The nanoseconds beyond the complete seconds. -/
def subsecond (d : Duration) : Nat := d.nanos % 1000000000

/-- The complete milliseconds, as many as 64 bits hold. -/
def wholeMillis (d : Duration) : UInt64 := UInt64.ofNat (min (d.nanos / 1000000) (UInt64.size - 1))

/-- The milliseconds after which a timer fires. -/
def timerMillis (d : Duration) : Nat := (d.nanos + 999999) / 1000000

theorem toNat_wholeMillis (d : Duration) :
    d.wholeMillis.toNat = min (d.nanos / 1000000) (UInt64.size - 1) := by
  rw [wholeMillis, UInt64.toNat_ofNat', UInt64.size]
  omega

@[simp] theorem timerMillis_ofMillis (ms : Nat) : (ofMillis ms).timerMillis = ms := by
  show (ms * 1000000 + 999999) / 1000000 = ms
  omega

/-- The digits of `part`, which is below `10 ^ width`, as a fraction without zeros at the end. -/
private def fraction (part width : Nat) : String :=
  let digits := Nat.toDigits 10 part
  let digits := List.replicate (width - digits.length) '0' ++ digits
  let digits := (digits.reverse.dropWhile (· == '0')).reverse
  if digits.isEmpty then "" else "." ++ String.ofList digits

/-- A span in seconds, milliseconds, microseconds or nanoseconds, whichever is the largest unit
that it fills. -/
def render (d : Duration) : String :=
  if 0 < d.seconds then toString d.seconds ++ fraction d.subsecond 9 ++ "s"
  else if 1000000 ≤ d.nanos then
    toString (d.nanos / 1000000) ++ fraction (d.nanos % 1000000) 6 ++ "ms"
  else if 1000 ≤ d.nanos then toString (d.nanos / 1000) ++ fraction (d.nanos % 1000) 3 ++ "µs"
  else toString d.nanos ++ "ns"

end Duration

end KvBridge
