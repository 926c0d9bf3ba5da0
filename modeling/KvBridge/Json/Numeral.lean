import KvBridge.Decimal.Shortest

/-!
# Numbers in JSON

A numeral is the spelling of a number, a `Number` is what it stands for: a whole number between
-2⁶³ and 2⁶⁴ - 1, or a binary number for all else. Only as many digits as fit 64 bits count; the
others keep their place and lose their value.

* `Numeral.number?`: what a numeral stands for, or none when it grows beyond the largest number;
* `Number.render`: the text of a number.
-/

namespace KvBridge.Json

/-- The spelling of a number: its digits before and after the point and its exponent. There is no
point without digits after it. -/
structure Numeral where
  negative : Bool
  whole : List Nat
  fraction : List Nat
  exponent : Option Int
deriving DecidableEq, Repr

/-- What a numeral stands for. -/
inductive Number
  | whole (n : Int)
  | binary (x : Binary64)
deriving DecidableEq, Repr

/-- Digits read so far: those that count, the power of ten they are to be taken by, and whether
none was dropped. -/
structure Significand where
  digits : Nat
  power : Int
  exact : Bool

namespace Significand

def bound : Nat := UInt64.size

/-- A digit before the point. After the first that does not fit, each only adds a place. -/
def whole (s : Significand) (digit : Nat) : Significand :=
  if s.exact ∧ s.digits * 10 + digit < bound then { s with digits := s.digits * 10 + digit }
  else { s with power := s.power + 1, exact := false }

/-- A digit after the point. The first that does not fit and all after it are dropped. -/
def fraction (s : Significand) (digit : Nat) : Significand :=
  if s.exact ∧ s.digits * 10 + digit < bound then
    { s with digits := s.digits * 10 + digit, power := s.power - 1 }
  else { s with exact := false }

end Significand

namespace Numeral

/-- The digits before the point. -/
def wholeSignificand (n : Numeral) : Significand := n.whole.foldl Significand.whole ⟨0, 0, true⟩

/-- All digits. Dropping starts anew at the point. -/
def significand (n : Numeral) : Significand :=
  n.fraction.foldl Significand.fraction { n.wholeSignificand with exact := true }

/-- Whether the digits before the point are the whole numeral and fit. -/
def isWhole (n : Numeral) : Bool :=
  n.fraction.isEmpty && n.exponent.isNone && n.wholeSignificand.exact

/-- What the numeral stands for. Zero with a sign and what lies beyond the whole numbers are
binary numbers. -/
def number? (n : Numeral) : Option Number :=
  let s := n.significand
  if n.isWhole ∧ ¬ n.negative then some (.whole s.digits)
  else if n.isWhole ∧ 0 < s.digits ∧ s.digits ≤ 0x8000000000000000 then some (.whole (-s.digits))
  else
    (Binary64.ofDecimal s.digits (s.power + n.exponent.getD 0)).map fun x =>
      .binary (if n.negative then x.neg else x)

end Numeral

namespace Number

/-- Powers of ten from -5 to 15 are written out, and other exponents always have a sign. -/
def style : DecimalStyle := ⟨fun first => -5 ≤ first && first < 16, "+"⟩

/-- The text of a number. -/
def render : Number → String
  | .whole n => toString n
  | .binary x => style.render x

end Number

end KvBridge.Json
