import KvBridge.Text.Cut

/-!
# Names in plain letters

A label of a host that needs more than the first 128 characters has a spelling in plain letters
and digits. It begins with the plain characters of the label and a hyphen; then each further
character is a number, which says how far its code point and its place are from those of the one
before. The digits of a number have growing weights, and a small digit ends it.

* `Punycode.decode?`: the label of such a spelling.
-/

namespace KvBridge.Text.Punycode

/-- The value of a digit: the letters come before the figures. -/
def digit? (c : Char) : Option Nat :=
  if 'a' ≤ c ∧ c ≤ 'z' then some (c.toNat - 'a'.toNat)
  else if 'A' ≤ c ∧ c ≤ 'Z' then some (c.toNat - 'A'.toNat)
  else if '0' ≤ c ∧ c ≤ '9' then some (c.toNat - '0'.toNat + 26)
  else none

/-- A digit below this ends a number at a place, which counts in steps of 36. -/
def threshold (place bias : Nat) : Nat := max 1 (min 26 (place - bias))

/-- Scales the distance between two characters down, at most `fuel` times. -/
def scale : (fuel distance place : Nat) → Nat
  | 0, distance, place => place + 36 * distance / (distance + 38)
  | fuel + 1, distance, place =>
    if 455 < distance then scale fuel (distance / 35) (place + 36)
    else place + 36 * distance / (distance + 38)

/-- The bias after a character at a distance, when so many characters are there. -/
def adapt (distance count : Nat) (first : Bool) : Nat :=
  let d := distance / if first then 700 else 2
  scale d.log2 (d + d / count) 0

/-- What has been read: the characters so far and the last code point; where the next character
goes at the earliest and with the digits so far; and the weight and place of the next digit. -/
structure Reading where
  label : List Char
  code : Nat := 128
  start : Nat := 0
  index : Nat := 0
  bias : Nat := 72
  weight : Nat := 1
  place : Nat := 36

/-- Reads a digit. -/
def Reading.step (r : Reading) (c : Char) : Option Reading := do
  let d ← digit? c
  let index := r.index + d * r.weight
  let bound := threshold r.place r.bias
  if bound ≤ d then
    return { r with index, weight := r.weight * (36 - bound), place := r.place + 36 }
  let count := r.label.length + 1
  let code := r.code + index / count
  let slot := index % count
  if code < 0xD800 ∨ (0xDFFF < code ∧ code < 0x110000) then
    return { label := r.label.insertIdx slot (Char.ofNat code), code, start := slot + 1
             index := slot + 1, bias := adapt (index - r.start) count (r.start == 0) }
  else none

/-- The label of a spelling, which must not end within a number. -/
def decode? (cs : List Char) : Option (List Char) := do
  let (plain, digits) := (cutLast? (· == '-') cs).getD ([], cs)
  let r ← digits.foldlM Reading.step { label := plain }
  if r.weight = 1 ∧ r.place = 36 then some r.label else none

example : decode? "bcher-kva".toList = some "bücher".toList := by decide +kernel

end KvBridge.Text.Punycode
