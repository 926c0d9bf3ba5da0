/-!
# Binary floating-point numbers of 64 bits

A finite number is a sign, a significand below 2⁵³ and a power of two, with the significand as
large as the format allows. Arithmetic is exact on fractions, and each result is rounded once, to
the nearest number of the format and a tie to the even significand.

* `roundDiv`: a quotient of natural numbers, rounded to the nearest;
* `Binary64.roundRatio`: the number nearest to a fraction, or none beyond the largest;
* `Binary64.mul`, `Binary64.div`: product and quotient of magnitudes;
* `Binary64.ofDecimal`: what `significand * 10 ^ power` reads as.
-/

namespace KvBridge

/-- The natural number nearest to `n / d`; of two nearest the even one. -/
def roundDiv (n d : Nat) : Nat :=
  let q := n / d
  let r := n % d
  if d < 2 * r ∨ (2 * r = d ∧ q % 2 = 1) then q + 1 else q

/-- A power of ten. -/
def tenTo (k : Nat) : Nat := Nat.pow 10 k

/-- A finite number, `mantissa * 2 ^ exponent` with a sign. -/
structure Binary64 where
  negative : Bool
  mantissa : Nat
  exponent : Int
deriving DecidableEq, Repr

namespace Binary64

def zero : Binary64 := ⟨false, 0, -1074⟩

/-- The number with the other sign. -/
def neg (x : Binary64) : Binary64 := { x with negative := !x.negative }

def isZero (x : Binary64) : Bool := x.mantissa == 0

/-- The least exponent. -/
def minExponent : Int := -1074

/-- The greatest exponent. -/
def maxExponent : Int := 971

/-- The magnitude is `num / den`. -/
def num (x : Binary64) : Nat := x.mantissa <<< x.exponent.toNat

def den (x : Binary64) : Nat := 1 <<< (-x.exponent).toNat

/-- `n / d` in units of `2 ^ e`, rounded. -/
def inUnits (n d : Nat) (e : Int) : Nat := roundDiv (n <<< (-e).toNat) (d <<< e.toNat)

/-- The exponent at which `n / d` has 53 binary digits before the point, or the least exponent.
The two logarithms leave two candidates, of which the smaller one is taken if it fits. -/
def unitOf (n d : Nat) : Int :=
  let e : Int := (n.log2 : Int) - d.log2 - 53
  let e := if n <<< (-e).toNat < d <<< (e.toNat + 53) then e else e + 1
  max e minExponent

/-- The number nearest to `n / d`, or none when that lies beyond the largest. -/
def roundRatio (n d : Nat) : Option Binary64 :=
  if n = 0 then some zero
  else
    let e := unitOf n d
    let m := inUnits n d e
    let (m, e) := if m = 1 <<< 53 then (1 <<< 52, e + 1) else (m, e)
    if maxExponent < e then none else some ⟨false, m, e⟩

/-- The product of two magnitudes. -/
def mul (x y : Binary64) : Option Binary64 := roundRatio (x.num * y.num) (x.den * y.den)

/-- The quotient of two magnitudes; the divisor is not zero. -/
def div (x y : Binary64) : Option Binary64 := roundRatio (x.num * y.den) (x.den * y.num)

/-- The number nearest to a natural number. -/
def ofNat (n : Nat) : Option Binary64 := roundRatio n 1

/-- The greatest power of ten that the format holds. -/
def maxPower : Nat := 308

/-- Divides by `10 ^ 308`, `times` times, and stops at zero. -/
def shrink (x : Binary64) : (times : Nat) → Option Binary64
  | 0 => some x
  | times + 1 =>
    if x.isZero then some x
    else ((ofNat (tenTo maxPower)).bind (x.div ·)).bind (shrink · times)

/-- What `significand * 10 ^ power` reads as: the significand is rounded, then multiplied or
divided by rounded powers of ten, with a rounding after each. None when it grows too large. -/
def ofDecimal (significand : Nat) (power : Int) : Option Binary64 := do
  let x ← ofNat significand
  if x.isZero then return x
  match power with
  | .ofNat k => if maxPower < k then none else x.mul (← ofNat (tenTo k))
  | .negSucc k =>
    let times := k / maxPower
    let x ← x.shrink times
    if x.isZero then return x
    x.div (← ofNat (tenTo (k + 1 - times * maxPower)))

end Binary64

end KvBridge
