import KvBridge.Crypto.Sha2

/-!
# Keyed digests and keys from passwords

* `Hmac.mac`: the digest of a message under a key;
* `Pbkdf2.derive`: a key of any length from a password and a salt, by many keyed digests.
-/

namespace KvBridge

namespace Hmac

/-- A key as one block: long keys are digested first. -/
def keyBlock (h : Sha2) (key : Bytes) : Bytes :=
  let key := if h.blockWidth < key.length then h.digest key else key
  key ++ List.replicate (h.blockWidth - key.length) 0

/-- The digest of a message under a key. -/
def mac (h : Sha2) (key message : Bytes) : Bytes :=
  let block := keyBlock h key
  h.digest (block.map (· ^^^ 0x5C) ++ h.digest (block.map (· ^^^ 0x36) ++ message))

end Hmac

namespace Pbkdf2

/-- The keyed digests of each other, `count` of them after `last`, summed without carry. -/
def iterate (h : Sha2) (password : Bytes) : (count : Nat) → (last sum : Bytes) → Bytes
  | 0, _, sum => sum
  | count + 1, last, sum =>
    let next := Hmac.mac h password last
    iterate h password count next (Bytes.xor sum next)

/-- The block of a number, from one on. -/
def block (h : Sha2) (password salt : Bytes) (iterations number : Nat) : Bytes :=
  let first := Hmac.mac h password (salt ++ Bytes.bigEndian 4 number)
  iterate h password (iterations - 1) first first

/-- A key of `width` bytes. -/
def derive (h : Sha2) (password salt : Bytes) (iterations width : Nat) : Bytes :=
  let blocks := (width + h.width - 1) / h.width
  ((List.range blocks).flatMap fun i =>
    block h password salt iterations (i + 1)).take width

end Pbkdf2

end KvBridge
