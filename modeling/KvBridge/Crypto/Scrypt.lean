import KvBridge.Crypto.Hmac

/-!
# Keys from passwords, at the cost of memory

The password and the salt are stretched into blocks of words. Each block is mixed many times over,
then many times more with what it was at a step that the block itself picks, so that all steps
have to be kept in memory.

* `Scrypt.core`: the mixing of sixteen words;
* `Scrypt.mixBlock`: the mixing of a block;
* `Scrypt.derive`: a key of any length.
-/

namespace KvBridge.Scrypt

/-- Turns a word to the left. -/
def turn (x n : UInt32) : UInt32 := (x <<< n) ||| (x >>> (32 - n))

/-- Sets a word to its sum without carry with the turned sum of two words. -/
def stir (s : Array UInt32) (target a b : Nat) (n : UInt32) : Array UInt32 :=
  s.setIfInBounds target (s.getD target 0 ^^^ turn (s.getD a 0 + s.getD b 0) n)

/-- Stirs four words. -/
def quarter (s : Array UInt32) (a b c d : Nat) : Array UInt32 :=
  stir (stir (stir (stir s b a d 7) c b a 9) d c b 13) a d c 18

/-- Stirs the columns, then the rows. -/
def doubleRound (s : Array UInt32) : Array UInt32 :=
  let s := quarter (quarter s 0 4 8 12) 5 9 13 1
  let s := quarter (quarter s 10 14 2 6) 15 3 7 11
  let s := quarter (quarter s 0 1 2 3) 5 6 7 4
  quarter (quarter s 10 11 8 9) 15 12 13 14

/-- Mixes sixteen words. -/
def core (s : Array UInt32) : Array UInt32 :=
  Array.zipWith (· + ·) s (doubleRound (doubleRound (doubleRound (doubleRound s))))

/-- The sum without carry of two blocks. -/
def xor (x y : Array UInt32) : Array UInt32 := Array.zipWith (· ^^^ ·) x y

/-- Mixes the parts of a block from number `i` on, each with what came before it. What comes of
the parts of even number goes to one side, of odd number to the other. -/
def mixParts (block : Array UInt32) : (count i : Nat) → (last even odd : Array UInt32) →
    Array UInt32
  | 0, _, _, even, odd => even ++ odd
  | count + 1, i, last, even, odd =>
    let last := core (xor last (block.extract (16 * i) (16 * i + 16)))
    if i % 2 = 0 then mixParts block count (i + 1) last (even ++ last) odd
    else mixParts block count (i + 1) last even (odd ++ last)

/-- Mixes a block. -/
def mixBlock (block : Array UInt32) : Array UInt32 :=
  mixParts block (block.size / 16) 0 (block.extract (block.size - 16) block.size) #[] #[]

/-- The steps of a block, and the block after them. -/
def steps : (count : Nat) → (block : Array UInt32) → Array (Array UInt32) →
    Array UInt32 × Array (Array UInt32)
  | 0, block, kept => (block, kept)
  | count + 1, block, kept => steps count (mixBlock block) (kept.push block)

/-- The step that a block picks. -/
def pick (kept : Array (Array UInt32)) (block : Array UInt32) : Array UInt32 :=
  let word (i : Nat) : Nat := (block.getD (block.size - 16 + i) 0).toNat
  kept.getD ((word 0 + UInt32.size * word 1) % kept.size) #[]

/-- Mixes a block with the steps that it picks. -/
def revisit (kept : Array (Array UInt32)) : (count : Nat) → Array UInt32 → Array UInt32
  | 0, block => block
  | count + 1, block => revisit kept count (mixBlock (xor block (pick kept block)))

/-- Mixes bytes at the cost of so many steps. -/
def mix (cost : Nat) (bs : Bytes) : Bytes :=
  let words := (Bytes.chunks 4 bs).map fun c => UInt32.ofNat (Bytes.ofLittleEndian c)
  let (block, kept) := steps cost words.toArray #[]
  (revisit kept cost block).toList.flatMap fun w => (Bytes.bigEndian 4 w.toNat).reverse

/-- A key of `width` bytes. There are `lanes` blocks of `size` times 128 bytes. -/
def derive (password salt : Bytes) (cost size lanes width : Nat) : Bytes :=
  let start := Pbkdf2.derive .sha256 password salt 1 (lanes * 128 * size)
  let mixed := (Bytes.chunks (128 * size) start).flatMap (mix cost)
  Pbkdf2.derive .sha256 password mixed 1 width

end KvBridge.Scrypt
