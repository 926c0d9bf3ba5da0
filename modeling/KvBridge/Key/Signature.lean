import KvBridge.Crypto.Sha2
import KvBridge.Key.Rsa

/-!
# Signatures

A message is signed by its digest, which is padded to the width of the modulus and raised to the
private exponent. The power is taken modulo each of the two primes, and the two remainders are
joined; for that the second prime must have an inverse modulo the first. Factors that are no
primes show in the result, which does not undo itself.

* `Rsa.inverse?`: the inverse of a number modulo another one;
* `Rsa.SigningKey.ofPrivate?`: a private key with what joining takes;
* `Rsa.SigningKey.sign`: the signature of a message, unless the key is unfit.
-/

namespace KvBridge.Rsa

/-- The digits of a number to the base of two. -/
def bitLength (n : Nat) : Nat := if n = 0 then 0 else n.log2 + 1

/-- A power modulo `m`, times `acc`; the last `digits` digits of the exponent count. -/
def powModFrom (m : Nat) : (digits base exponent acc : Nat) → Nat
  | 0, _, _, acc => acc
  | digits + 1, base, exponent, acc =>
    powModFrom m digits (base * base % m) (exponent / 2)
      (if exponent % 2 = 1 then acc * base % m else acc)

/-- A power modulo `m`, by squaring. -/
def powMod (base exponent m : Nat) : Nat :=
  powModFrom m (bitLength exponent) (base % m) exponent (1 % m)

/-- The last remainder but zero of dividing by turns, and its coefficient. Each remainder is its
coefficient times one number, up to multiples of the other one. -/
def divideByTurns (r s : Nat) (t u : Int) : Nat × Int :=
  if s = 0 then (r, t) else divideByTurns s (r % s) u (t - r / s * u)
termination_by s
decreasing_by exact Nat.mod_lt _ (Nat.pos_of_ne_zero ‹_›)

/-- The inverse of `a` modulo `m`, if the two have no divisor in common. -/
def inverse? (a m : Nat) : Option Nat :=
  match divideByTurns a m 1 0 with
  | (1, t) => some (t % m).toNat
  | _ => none

example : inverse? 7 10 = some 3 ∧ inverse? 3 7 = some 5 ∧ inverse? 4 10 = none := by
  decide +kernel

/-- A private key, and the inverse of its second prime modulo the first. -/
structure SigningKey extends PrivateKey where
  coefficient : Nat
deriving DecidableEq, Repr

/-- Why no signature can be made. -/
inductive Unfit
  | tooSmall
  | tooLarge
  /-- The modulus or a prime has no more than 192 bits. -/
  | tiny
  | largeExponent
  | inconsistent
  | unaligned
  /-- The power of the padded digest does not undo itself. -/
  | wrongPower
deriving DecidableEq, Repr

/-- The words for a key that is unfit to sign. -/
def Unfit.message : Unfit → String
  | .tooSmall => "RSA key invalid: TooSmall"
  | .tooLarge => "RSA key invalid: TooLarge"
  | .tiny => "RSA key invalid: UnexpectedError"
  | .largeExponent => "RSA key invalid: InvalidComponent"
  | .inconsistent => "RSA key invalid: InconsistentComponents"
  | .unaligned => "RSA key invalid: PrivateModulusLenNotMultipleOf512Bits"
  | .wrongPower => "RsaFailedSigning"

namespace SigningKey

/-- A private key with what joining takes. -/
def ofPrivate? (k : PrivateKey) : Option SigningKey :=
  (inverse? k.prime2 k.prime1).map fun c => ⟨k, c⟩

/-- Whether a number is too small to reckon with. -/
def isTiny (n : Nat) : Bool := bitLength n ≤ 192

/-- Whether a prime may be used. It has half of the bits of the modulus, a multiple of 512. -/
def checkPrime (half prime : Nat) : Except Unfit Unit :=
  if isTiny prime then .error .tiny
  else if bitLength prime ≠ half then .error .inconsistent
  else if half % 512 ≠ 0 then .error .unaligned
  else .ok ()

/-- Whether a key may sign. The modulus has 2048 to 4096 bits, the public exponent is 65537 or
more, and the private exponent lies between the width of a prime and the modulus. -/
def checkFit (k : SigningKey) : Except Unfit Unit :=
  let bits := bitLength k.modulus
  let half := (bits + 1) / 2
  if isTiny k.modulus then .error .tiny
  else if (bits + 7) / 8 * 8 < 2048 then .error .tooSmall
  else if 4096 < bits then .error .tooLarge
  else if k.publicExponent < 65537 then .error .tooSmall
  else do
    checkPrime half k.prime1
    checkPrime half k.prime2
    if 8192 < bitLength k.privateExponent then throw .largeExponent
    if bitLength k.privateExponent ≤ half then throw .inconsistent
    if k.modulus ≤ k.privateExponent then throw .inconsistent

/-- The name of the digest. -/
def digestPath : List Nat := [2, 16, 840, 1, 101, 3, 4, 2, 1]

/-- The digest of a message with its name, padded to a width. -/
def padded (width : Nat) (message : Bytes) : Bytes :=
  let named := (Der.sequence [.algorithm digestPath .nothing,
    ⟨Der.octetsTag, Sha2.sha256.digest message⟩]).encode
  [0x00, 0x01] ++ List.replicate (width - 3 - named.length) 0xFF ++ 0x00 :: named

/-- The power of `x` by the private exponent, joined from the powers modulo the primes. -/
def power (k : SigningKey) (x : Nat) : Nat :=
  let p := k.prime1
  let q := k.prime2
  let modP := powMod x (k.privateExponent % (p - 1)) p
  let modQ := powMod x (k.privateExponent % (q - 1)) q
  modQ + (modP + (p - modQ % p)) * k.coefficient % p * q

/-- The signature of a message. -/
def sign (k : SigningKey) (message : Bytes) : Except Unfit Bytes := do
  k.checkFit
  let width := (bitLength k.modulus + 7) / 8
  let x := Bytes.ofBigEndian (padded width message)
  let y := k.power x
  if powMod y k.publicExponent k.modulus ≠ x then throw .wrongPower
  return Bytes.bigEndian width y

end SigningKey

end KvBridge.Rsa
