import KvBridge.Decimal.Binary64

/-!
# The shortest decimal of a binary number

A binary number is written with the fewest decimal digits that read back as the same number; of
the decimals with so few digits the nearest is taken. A `DecimalStyle` says how the digits are
laid out.

* `Binary64.accepts`: whether a decimal lies where reading rounds to the number;
* `Binary64.shortest`: the digits and their place;
* `DecimalStyle.render`: digits, point and exponent as text.
-/

namespace KvBridge

/-- The decimal `digits * 10 ^ power`. -/
structure Decimal where
  digits : Nat
  power : Int
deriving DecidableEq, Repr

namespace Binary64

/-- Compares `c * 10 ^ p` with `n / d`. -/
private def compareDecimal (c : Nat) (p : Int) (n d : Nat) : Ordering :=
  compare (c * tenTo p.toNat * d) (n * tenTo (-p).toNat)

/-- Whether `c * 10 ^ p` lies between the two points halfway to the neighbours of `x`. The points
themselves round to `x` when its significand is even. Below a power of two the lower neighbour is
half as far. -/
def accepts (x : Binary64) (c : Nat) (p : Int) : Bool :=
  let n := x.num
  let d := x.den
  let unit := 1 <<< x.exponent.toNat
  let below := if x.mantissa = 1 <<< 52 ∧ minExponent < x.exponent then 1 else 2
  let closed := x.mantissa % 2 == 0
  let lower := compareDecimal c p (4 * n - below * unit) (4 * d)
  let upper := compareDecimal c p (4 * n + 2 * unit) (4 * d)
  (lower == .gt || (closed && lower == .eq)) && (upper == .lt || (closed && upper == .eq))

/-- The number of digits before the point: `10 ^ (k - 1) ≤ x < 10 ^ k`. -/
def magnitude (x : Binary64) : Int :=
  let guess : Int := (x.mantissa.log2 + x.exponent) * 30103 / 100000
  let fits (k : Int) : Bool := x.num * tenTo (-k).toNat < tenTo k.toNat * x.den
  if fits guess then guess else if fits (guess + 1) then guess + 1 else guess + 2

/-- The decimal of `count` digits that reads back as `x` and is nearest to it, if there is one:
one of the two neighbours of `x` among the decimals of so many digits. -/
def withDigits? (x : Binary64) (count : Nat) : Option Decimal :=
  let p := x.magnitude - count
  let n := x.num * tenTo (-p).toNat
  let d := x.den * tenTo p.toNat
  let c := n / d
  match x.accepts c p, x.accepts (c + 1) p with
  | true, true => some ⟨roundDiv n d, p⟩
  | true, false => some ⟨c, p⟩
  | false, true => some ⟨c + 1, p⟩
  | false, false => none

/-- Moves zeros at the end of the digits into the power. -/
def Decimal.trim (d : Decimal) : (fuel : Nat) → Decimal
  | 0 => d
  | fuel + 1 =>
    if d.digits ≠ 0 ∧ d.digits % 10 = 0 then Decimal.trim ⟨d.digits / 10, d.power + 1⟩ fuel else d

/-- The fewest digits that read back as `x`, without zeros at the end. Seventeen always do. -/
def shortest (x : Binary64) : Decimal :=
  if x.isZero then ⟨0, 0⟩
  else
    match (List.range 17).findSome? fun i => x.withDigits? (i + 1) with
    | some d => Decimal.trim d 18
    | none => ⟨0, 0⟩

end Binary64

/-- How digits are laid out. -/
structure DecimalStyle where
  /-- Whether a number with that power of ten for its first digit is written without exponent. -/
  positional : Int → Bool
  /-- What stands before an exponent that is not negative. -/
  plus : String

namespace DecimalStyle

/-- The digits with a point after the first `before` of them, filled up with zeros; at least one
digit stands on either side. -/
private def pointed (digits : List Char) (before : Int) : String :=
  let whole := digits.take before.toNat
  let whole := whole ++ List.replicate (before.toNat - whole.length) '0'
  let rest := List.replicate (-before).toNat '0' ++ digits.drop before.toNat
  String.ofList ((if whole.isEmpty then ['0'] else whole) ++
    '.' :: (if rest.isEmpty then ['0'] else rest))

/-- A number as text. -/
def render (style : DecimalStyle) (x : Binary64) : String :=
  let d := x.shortest
  let digits := Nat.toDigits 10 d.digits
  let first : Int := digits.length - 1 + d.power
  let body :=
    if style.positional first then pointed digits (first + 1)
    else
      let mantissa := match digits with
        | [c] => String.ofList [c]
        | _ => pointed digits 1
      let sign := if first < 0 then "-" else style.plus
      mantissa ++ "e" ++ sign ++ toString first.natAbs
  (if x.negative then "-" else "") ++ body

end DecimalStyle

end KvBridge
