import KvBridge.Bytes

/-!
# The digests of the second family

A message is padded, cut into blocks, and each block is mixed into eight words. There are words of
32 bits and of 64 bits; a digest is the first so many bytes of the words at the end.

* `Sha2.digest`: the digest of a message;
* `Sha2.blockWidth`: the bytes of a block, which keyed digests need.
-/

namespace KvBridge

/-- The digests, named for their length in bits. -/
inductive Sha2
  | sha224
  | sha256
  | sha384
  | sha512
deriving DecidableEq, Repr

namespace Sha2

/-- What the mixing needs of words: the number of their bytes, sums, and the four functions that
spread the bits of one word. -/
structure WordKind (w : Type) where
  width : Nat
  ofNat : Nat → w
  toNat : w → Nat
  spread0 : w → w
  spread1 : w → w
  stretch0 : w → w
  stretch1 : w → w
  constants : List w

/-- Turns a word of 32 bits to the right. -/
def turn32 (x : UInt32) (n : UInt32) : UInt32 := (x >>> n) ||| (x <<< (32 - n))

/-- Turns a word of 64 bits to the right. -/
def turn64 (x : UInt64) (n : UInt64) : UInt64 := (x >>> n) ||| (x <<< (64 - n))

/-- The first 64 bits after the point of the cube roots of the first eighty primes. -/
def cubeRoots : List UInt64 := [
  0x428a2f98d728ae22, 0x7137449123ef65cd, 0xb5c0fbcfec4d3b2f, 0xe9b5dba58189dbbc,
  0x3956c25bf348b538, 0x59f111f1b605d019, 0x923f82a4af194f9b, 0xab1c5ed5da6d8118,
  0xd807aa98a3030242, 0x12835b0145706fbe, 0x243185be4ee4b28c, 0x550c7dc3d5ffb4e2,
  0x72be5d74f27b896f, 0x80deb1fe3b1696b1, 0x9bdc06a725c71235, 0xc19bf174cf692694,
  0xe49b69c19ef14ad2, 0xefbe4786384f25e3, 0x0fc19dc68b8cd5b5, 0x240ca1cc77ac9c65,
  0x2de92c6f592b0275, 0x4a7484aa6ea6e483, 0x5cb0a9dcbd41fbd4, 0x76f988da831153b5,
  0x983e5152ee66dfab, 0xa831c66d2db43210, 0xb00327c898fb213f, 0xbf597fc7beef0ee4,
  0xc6e00bf33da88fc2, 0xd5a79147930aa725, 0x06ca6351e003826f, 0x142929670a0e6e70,
  0x27b70a8546d22ffc, 0x2e1b21385c26c926, 0x4d2c6dfc5ac42aed, 0x53380d139d95b3df,
  0x650a73548baf63de, 0x766a0abb3c77b2a8, 0x81c2c92e47edaee6, 0x92722c851482353b,
  0xa2bfe8a14cf10364, 0xa81a664bbc423001, 0xc24b8b70d0f89791, 0xc76c51a30654be30,
  0xd192e819d6ef5218, 0xd69906245565a910, 0xf40e35855771202a, 0x106aa07032bbd1b8,
  0x19a4c116b8d2d0c8, 0x1e376c085141ab53, 0x2748774cdf8eeb99, 0x34b0bcb5e19b48a8,
  0x391c0cb3c5c95a63, 0x4ed8aa4ae3418acb, 0x5b9cca4f7763e373, 0x682e6ff3d6b2b8a3,
  0x748f82ee5defb2fc, 0x78a5636f43172f60, 0x84c87814a1f0ab72, 0x8cc702081a6439ec,
  0x90befffa23631e28, 0xa4506cebde82bde9, 0xbef9a3f7b2c67915, 0xc67178f2e372532b,
  0xca273eceea26619c, 0xd186b8c721c0c207, 0xeada7dd6cde0eb1e, 0xf57d4f7fee6ed178,
  0x06f067aa72176fba, 0x0a637dc5a2c898a6, 0x113f9804bef90dae, 0x1b710b35131c471b,
  0x28db77f523047d84, 0x32caab7b40c72493, 0x3c9ebe0a15c9bebc, 0x431d67c49c100d4c,
  0x4cc5d4becb3e42b6, 0x597f299cfc657e2a, 0x5fcb6fab3ad6faec, 0x6c44198c4a475817]

/-- The first 64 bits after the point of the square roots of the first sixteen primes. -/
def squareRoots : List UInt64 := [
  0x6a09e667f3bcc908, 0xbb67ae8584caa73b, 0x3c6ef372fe94f82b, 0xa54ff53a5f1d36f1,
  0x510e527fade682d1, 0x9b05688c2b3e6c1f, 0x1f83d9abfb41bd6b, 0x5be0cd19137e2179,
  0xcbbb9d5dc1059ed8, 0x629a292a367cd507, 0x9159015a3070dd17, 0x152fecd8f70e5939,
  0x67332667ffc00b31, 0x8eb44a8768581511, 0xdb0c2e0d64f98fa7, 0x47b5481dbefa4fa4]

def words32 : WordKind UInt32 where
  width := 4
  ofNat := UInt32.ofNat
  toNat := UInt32.toNat
  spread0 x := turn32 x 2 ^^^ turn32 x 13 ^^^ turn32 x 22
  spread1 x := turn32 x 6 ^^^ turn32 x 11 ^^^ turn32 x 25
  stretch0 x := turn32 x 7 ^^^ turn32 x 18 ^^^ (x >>> 3)
  stretch1 x := turn32 x 17 ^^^ turn32 x 19 ^^^ (x >>> 10)
  constants := (cubeRoots.take 64).map fun (k : UInt64) => (k >>> 32).toUInt32

def words64 : WordKind UInt64 where
  width := 8
  ofNat := UInt64.ofNat
  toNat := UInt64.toNat
  spread0 x := turn64 x 28 ^^^ turn64 x 34 ^^^ turn64 x 39
  spread1 x := turn64 x 14 ^^^ turn64 x 18 ^^^ turn64 x 41
  stretch0 x := turn64 x 1 ^^^ turn64 x 8 ^^^ (x >>> 7)
  stretch1 x := turn64 x 19 ^^^ turn64 x 61 ^^^ (x >>> 6)
  constants := cubeRoots

section

variable {w : Type} [Inhabited w] [Add w] [AndOp w] [XorOp w] [Complement w] (k : WordKind w)

/-- The words of a block, and behind them words that are made of those that went before. -/
def schedule (block : List w) : List w :=
  ((List.range (k.constants.length - 16)).foldl
    (fun ws i =>
      let word (j : Nat) : w := ws.getD (i + j) default
      ws.push (k.stretch1 (word 14) + word 9 + k.stretch0 (word 1) + word 0))
    block.toArray).toList

/-- The eight words that are mixed. -/
structure Mix (w : Type) where
  a : w
  b : w
  c : w
  d : w
  e : w
  f : w
  g : w
  h : w

/-- Mixes in one word and its constant. -/
def Mix.round (s : Mix w) (x : w × w) : Mix w :=
  let chosen := (s.e &&& s.f) ^^^ (~~~s.e &&& s.g)
  let majority := (s.a &&& s.b) ^^^ (s.a &&& s.c) ^^^ (s.b &&& s.c)
  let t := s.h + k.spread1 s.e + chosen + x.1 + x.2
  ⟨t + k.spread0 s.a + majority, s.a, s.b, s.c, s.d + t, s.e, s.f, s.g⟩

/-- Mixes in a block. -/
def Mix.block (s : Mix w) (block : List w) : Mix w :=
  let t := (k.constants.zip (schedule k block)).foldl (Mix.round k) s
  ⟨s.a + t.a, s.b + t.b, s.c + t.c, s.d + t.d, s.e + t.e, s.f + t.f, s.g + t.g, s.h + t.h⟩

/-- The message with a one bit, zeros up to the end of a block, and its length in bits. -/
def padded (message : Bytes) : Bytes :=
  let block := 16 * k.width
  let used := message.length + 1 + 2 * k.width
  message ++ 0x80 :: List.replicate ((block - used % block) % block) 0 ++
    Bytes.bigEndian (2 * k.width) (8 * message.length)

/-- The words of a byte string. -/
def toWords (bs : Bytes) : List w :=
  (Bytes.chunks k.width bs).map fun c => k.ofNat (Bytes.ofBigEndian c)

/-- All eight words after a message, as bytes. -/
def hash (start : Mix w) (message : Bytes) : Bytes :=
  let s := (Bytes.chunks (16 * k.width) (padded k message)).foldl
    (fun s block => s.block k (toWords k block)) start
  [s.a, s.b, s.c, s.d, s.e, s.f, s.g, s.h].flatMap fun x => Bytes.bigEndian k.width (k.toNat x)

/-- Eight words from a list. -/
def Mix.ofList (ws : List w) : Mix w :=
  let word (i : Nat) : w := ws.getD i default
  ⟨word 0, word 1, word 2, word 3, word 4, word 5, word 6, word 7⟩

end

/-- The digest of a message. -/
def digest (h : Sha2) (message : Bytes) : Bytes :=
  match h with
  | .sha224 =>
    (hash words32 (.ofList ((squareRoots.drop 8).map UInt64.toUInt32)) message).take 28
  | .sha256 =>
    hash words32 (.ofList (squareRoots.map fun (r : UInt64) => (r >>> 32).toUInt32)) message
  | .sha384 => (hash words64 (.ofList (squareRoots.drop 8)) message).take 48
  | .sha512 => hash words64 (.ofList squareRoots) message

/-- The bytes of a digest. -/
def width : Sha2 → Nat
  | .sha224 => 28
  | .sha256 => 32
  | .sha384 => 48
  | .sha512 => 64

/-- The bytes of a block. -/
def blockWidth : Sha2 → Nat
  | .sha224 | .sha256 => 64
  | .sha384 | .sha512 => 128

end Sha2

end KvBridge
