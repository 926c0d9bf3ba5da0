import KvBridge.Crypto.Base64
import KvBridge.Crypto.Sha2
import KvBridge.Key.Der

/-!
# Keys of two primes

A private key holds a modulus that is the product of two primes, and two exponents that undo each
other. That the two factors are primes is not checked, nor that they differ.

* `Rsa.PrivateKey.isSound`: whether the numbers of a key belong together;
* `Rsa.PrivateKey.fingerprint`: a digest of the public half;
* `Rsa.PrivateKey.ofDer?`: the key that an element holds.
-/

namespace KvBridge.Rsa

/-- A private key. -/
structure PrivateKey where
  modulus : Nat
  publicExponent : Nat
  privateExponent : Nat
  prime1 : Nat
  prime2 : Nat
deriving DecidableEq, Repr

namespace PrivateKey

/-- The largest public exponent of keys that are accepted at all. -/
def maxPublicExponent : Nat := 0x1FFFFFFFF

/-- Whether the numbers of a key belong together. -/
def isSound (k : PrivateKey) : Bool :=
  k.modulus % 2 == 1 && k.publicExponent < k.modulus && k.publicExponent % 2 == 1 &&
  2 ≤ k.publicExponent && k.publicExponent ≤ maxPublicExponent &&
  k.prime1 * k.prime2 == k.modulus &&
  [k.prime1, k.prime2].all fun p => k.publicExponent * k.privateExponent % (p - 1) == 1

/-- The name of keys of two primes. -/
def algorithmPath : List Nat := [1, 2, 840, 113549, 1, 1, 1]

/-- The algorithm that such keys are for, which has no parameters. -/
def algorithm : Der := .algorithm algorithmPath .nothing

/-- The public half. -/
def publicDer (k : PrivateKey) : Der :=
  .sequence [algorithm,
    .bits (Der.sequence [.ofNat k.modulus, .ofNat k.publicExponent]).encode]

/-- The digest of the public half, as text. -/
def fingerprint (k : PrivateKey) : String :=
  "SHA256:" ++ Base64.encode (Sha2.sha256.digest k.publicDer.encode)

/-- The key of a sequence of nine numbers: a version, which is zero for two primes, the five of
the key, and three that follow from them. -/
def ofDer? (e : Der) : Option PrivateKey := do
  match ← (← e.members?).mapM Der.nat? with
  | [0, n, pub, priv, p, q, _, _, _] =>
    let k : PrivateKey := ⟨n, pub, priv, p, q⟩
    if k.isSound then some k else none
  | _ => none

end PrivateKey

end KvBridge.Rsa
