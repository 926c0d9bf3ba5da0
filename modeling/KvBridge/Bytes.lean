/-!
# Byte strings and fixed-width numbers in them

Keys, values and bodies are lists of bytes. A number of fixed width is written with its most
significant byte first:

* `bigEndian n x`: the last `n` base-256 digits of `x`;
* `ofBigEndian bs`: the number that the digits `bs` spell;
* `ofBigEndian_bigEndian`: reading undoes writing when the number fits;
* `bigEndian_ofBigEndian`: writing undoes reading, so each number that fits has one spelling.
-/

namespace KvBridge

/-- A string of bytes. -/
abbrev Bytes := List UInt8

namespace Bytes

/-- The last `width` base-256 digits of `x`, most significant first. -/
def bigEndian : (width : Nat) → (x : Nat) → Bytes
  | 0, _ => []
  | width + 1, x => bigEndian width (x / 256) ++ [UInt8.ofNat x]

/-- The number that the digits `bs` spell after the digits of `acc`. -/
def ofBigEndianFrom (acc : Nat) : Bytes → Nat
  | [] => acc
  | b :: bs => ofBigEndianFrom (acc * 256 + b.toNat) bs

/-- The number that the digits `bs` spell, most significant first. -/
def ofBigEndian (bs : Bytes) : Nat := ofBigEndianFrom 0 bs

/-- How many numbers `width` digits can spell. -/
def capacity (width : Nat) : Nat := 1 <<< (8 * width)

theorem capacity_zero : capacity 0 = 1 := rfl

theorem capacity_succ (width : Nat) : capacity (width + 1) = 256 * capacity width := by
  simp only [capacity, Nat.one_shiftLeft, Nat.mul_add, Nat.pow_add]
  omega

theorem capacity_pos (width : Nat) : 0 < capacity width := by
  rw [capacity, Nat.one_shiftLeft]
  exact Nat.two_pow_pos _

theorem length_bigEndian (width x : Nat) : (bigEndian width x).length = width := by
  induction width generalizing x with
  | zero => rfl
  | succ width ih => simp [bigEndian, ih]

theorem ofBigEndianFrom_append (acc : Nat) (bs : Bytes) (b : UInt8) :
    ofBigEndianFrom acc (bs ++ [b]) = ofBigEndianFrom acc bs * 256 + b.toNat := by
  induction bs generalizing acc with
  | nil => rfl
  | cons c cs ih => simp [ofBigEndianFrom, ih]

/-- Reading gives back the number, up to what the width drops. -/
theorem ofBigEndian_bigEndian_mod (width x : Nat) :
    ofBigEndian (bigEndian width x) = x % capacity width := by
  induction width generalizing x with
  | zero => simp [bigEndian, ofBigEndian, ofBigEndianFrom, capacity_zero, Nat.mod_one]
  | succ width ih =>
    rw [bigEndian, ofBigEndian, ofBigEndianFrom_append, ← ofBigEndian, ih, capacity_succ,
      Nat.mod_mul]
    simp only [UInt8.toNat_ofNat']
    omega

theorem ofBigEndian_bigEndian {width x : Nat} (h : x < capacity width) :
    ofBigEndian (bigEndian width x) = x := by
  rw [ofBigEndian_bigEndian_mod, Nat.mod_eq_of_lt h]

/-- Writing gives back the digits that were read. -/
theorem bigEndian_ofBigEndian (bs : Bytes) : bigEndian bs.length (ofBigEndian bs) = bs := by
  induction hn : bs.length generalizing bs with
  | zero => simp [List.length_eq_zero_iff.1 hn, bigEndian]
  | succ n ih =>
    obtain ⟨cs, c, rfl⟩ : ∃ cs c, bs = cs ++ [c] :=
      ⟨bs.dropLast, bs.getLast (by intro h; simp [h] at hn),
        (List.dropLast_concat_getLast _).symm⟩
    have hlen : cs.length = n := by simpa using hn
    rw [ofBigEndian, ofBigEndianFrom_append, ← ofBigEndian, bigEndian]
    have hc : c.toNat < 256 := c.toNat_lt
    rw [show (ofBigEndian cs * 256 + c.toNat) / 256 = ofBigEndian cs by omega, ih cs hlen]
    congr
    rw [← UInt8.toNat_inj, UInt8.toNat_ofNat']
    omega

/-- Digits spell a number that fits their width. -/
theorem ofBigEndian_lt (bs : Bytes) : ofBigEndian bs < capacity bs.length := by
  rw [← bigEndian_ofBigEndian bs, ofBigEndian_bigEndian_mod, length_bigEndian]
  exact Nat.mod_lt _ (capacity_pos bs.length)

/-- The number of bytes needed to write `x` without leading zeros. -/
def minimalWidth (x : Nat) : Nat := if x = 0 then 0 else x.log2 / 8 + 1

/-- The number that the digits `bs` spell, least significant first. -/
def ofLittleEndian (bs : Bytes) : Nat := ofBigEndian bs.reverse

/-- The value of a digit in base 16, in either case. -/
def hexDigit? (b : UInt8) : Option Nat :=
  if 0x30 ≤ b ∧ b ≤ 0x39 then some (b.toNat - 0x30)
  else if 0x61 ≤ b ∧ b ≤ 0x66 then some (b.toNat - 0x57)
  else if 0x41 ≤ b ∧ b ≤ 0x46 then some (b.toNat - 0x37)
  else none

/-- Pairwise exclusive or, as long as both last. -/
def xor (xs ys : Bytes) : Bytes := List.zipWith (· ^^^ ·) xs ys

/-- Cuts into pieces of `n` bytes; the last piece holds what is left. -/
def chunks (n : Nat) (bs : Bytes) : List Bytes :=
  (List.range ((bs.length + n - 1) / n)).map fun i => (bs.drop (i * n)).take n

end Bytes

end KvBridge
