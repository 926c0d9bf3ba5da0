import KvBridge.Crypto.Aes
import KvBridge.Crypto.Scrypt
import KvBridge.Key.Der

/-!
# Encrypted documents

An encrypted document names how a key is made from a passphrase and by which cipher it was used,
and holds the bytes that came of it. Keys are made by keyed digests of the second family, or at
the cost of memory; the ciphers are chains of AES blocks with keys of 128, 192 and 256 bits.

* `Encrypted.ofDer?`: a document of a known kind;
* `Encrypted.decrypt?`: the bytes that were encrypted, for the right passphrase.
-/

namespace KvBridge

/-- How a key is made from a passphrase. -/
inductive Derivation
  /-- By so many keyed digests. -/
  | digests (hash : Sha2) (salt : Bytes) (iterations : Nat)
  /-- By so many steps with so many blocks of a size. -/
  | memory (salt : Bytes) (cost size lanes : Nat)
deriving DecidableEq, Repr

/-- An encrypted document. The first block of its content was combined with `iv`. -/
structure Encrypted where
  derivation : Derivation
  keyWidth : Nat
  iv : Bytes
  content : Bytes
deriving DecidableEq, Repr

namespace Encrypted

/-- The name of encryption by a key that is made from a passphrase, with a choice of both steps. -/
def schemePath : List Nat := [1, 2, 840, 113549, 1, 5, 13]

/-- The name of keys by many keyed digests. -/
def digestsPath : List Nat := [1, 2, 840, 113549, 1, 5, 12]

/-- The name of keys at the cost of memory. -/
def memoryPath : List Nat := [1, 3, 6, 1, 4, 1, 11591, 4, 11]

/-- The names of the keyed digests. -/
def hashes : List (Der × Sha2) :=
  [(8, .sha224), (9, .sha256), (10, .sha384), (11, .sha512)].map fun (n, h) =>
    (.algorithm [1, 2, 840, 113549, 2, n] .nothing, h)

/-- The names of the ciphers, and the widths of their keys. -/
def ciphers : List (Der × Nat) :=
  [(2, 16), (22, 24), (42, 32)].map fun (n, width) =>
    (.name [2, 16, 840, 1, 101, 3, 4, 1, n], width)

/-- The parameters of an algorithm of a known name. -/
def parameters? (path : List Nat) (e : Der) : Option Der := do
  match ← e.members? with
  | [name, parameters] => if name = .name path then some parameters else none
  | _ => none

/-- A cipher: the width of its key and what the first block is combined with. -/
def cipher? (e : Der) : Option (Nat × Bytes) := do
  match ← e.members? with
  | [name, parameters] =>
    let width ← ciphers.lookup name
    let iv ← parameters.octets?
    if iv.length = 16 then some (width, iv) else none
  | _ => none

/-- What follows the width of a key in the parameters of how it is made. The width may be left
out, and must otherwise be the one that the cipher needs. -/
def afterWidth? (width : Nat) : List Der → Option (List Der)
  | e :: rest =>
    if e = .ofNat width then some rest
    else if e.tag = Der.integerTag then none
    else some (e :: rest)
  | [] => some []

/-- The making of keys by many keyed digests, of which there is no usual one. -/
def digests? (width : Nat) : List Der → Option Derivation
  | salt :: iterations :: rest => do
    let iterations ← iterations.nat?
    match ← afterWidth? width rest with
    | [hash] =>
      if iterations < UInt32.size then
        return .digests (← hashes.lookup hash) (← salt.octets?) iterations
      else none
    | _ => none
  | _ => none

/-- The making of keys at the cost of memory. The number of steps is a power of two, and all
numbers are small enough that the memory could be there. -/
def memory? (width : Nat) : List Der → Option Derivation
  | salt :: cost :: size :: lanes :: rest => do
    let cost ← cost.nat?
    let size ← size.nat?
    let lanes ← lanes.nat?
    if (← afterWidth? width rest).isEmpty ∧ cost = 1 <<< cost.log2 ∧
        cost < UInt32.size ∧ 0 < size ∧ size < UInt16.size ∧ 0 < lanes ∧ lanes < UInt16.size ∧
        cost.log2 < 16 * size ∧ size * lanes < 1 <<< 30 then
      return .memory (← salt.octets?) cost size lanes
    else none
  | _ => none

/-- How keys of a width are made. -/
def derivation? (width : Nat) (e : Der) : Option Derivation :=
  match parameters? digestsPath e, parameters? memoryPath e with
  | some p, _ => p.members?.bind (digests? width)
  | _, some p => p.members?.bind (memory? width)
  | none, none => none

/-- A document of a known kind. -/
def ofDer? (e : Der) : Option Encrypted := do
  match ← e.members? with
  | [scheme, content] =>
    match ← (← parameters? schemePath scheme).members? with
    | [derivation, cipher] =>
      let (keyWidth, iv) ← cipher? cipher
      return ⟨← derivation? keyWidth derivation, keyWidth, iv, ← content.octets?⟩
    | _ => none
  | _ => none

/-- The key of a passphrase. -/
def key (d : Encrypted) (passphrase : Bytes) : Bytes :=
  match d.derivation with
  | .digests hash salt iterations => Pbkdf2.derive hash passphrase salt iterations d.keyWidth
  | .memory salt cost size lanes => Scrypt.derive passphrase salt cost size lanes d.keyWidth

/-- The bytes that were encrypted. Most wrong passphrases show in what comes out. -/
def decrypt? (d : Encrypted) (passphrase : Bytes) : Option Bytes :=
  Aes.decryptChain? (d.key passphrase) d.iv d.content

end Encrypted

end KvBridge
