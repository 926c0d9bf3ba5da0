import KvBridge.Bytes

/-!
# Distinguished encoding

Structured data is written as elements: a tag, the length of the content, and the content, which
may be made of elements in turn. Lengths, numbers and names have one spelling each.

* `Der.encode`: the bytes of an element;
* `Der.list?`, `Der.one?`: the elements, or the one element, that a byte string is made of;
* `Der.ofNat`, `Der.nat?`: numbers as elements;
* `nat?_ofNat`: reading a number gives back what was written.
-/

namespace KvBridge

/-- An element: its tag and its content. -/
structure Der where
  tag : UInt8
  content : Bytes
deriving DecidableEq, Repr

namespace Der

/-! ## Elements -/

/-- The bytes of a length: one byte below 128, or else how many bytes follow, and these. -/
def lengthBytes (n : Nat) : Bytes :=
  if n < 128 then [UInt8.ofNat n]
  else
    let width := Bytes.minimalWidth n
    UInt8.ofNat (128 + width) :: Bytes.bigEndian width n

/-- The bytes of an element. -/
def encode (e : Der) : Bytes := e.tag :: lengthBytes e.content.length ++ e.content

/-- A length and what follows it. Lengths of more than four bytes are not read, nor is a length
that is not spelled as it is written. -/
def length? : Bytes → Option (Nat × Bytes)
  | [] => none
  | b :: bs =>
    if b < 0x80 then some (b.toNat, bs)
    else
      let width := b.toNat - 0x80
      let digits := bs.take width
      let n := Bytes.ofBigEndian digits
      if width ≤ 4 ∧ lengthBytes n = b :: digits then some (n, bs.drop width) else none

/-- The tags with a meaning of their own: truth, numbers, bits, octets, nothing, names, texts,
times, sequences and sets. -/
def commonTags : List UInt8 :=
  [0x01, 0x02, 0x03, 0x04, 0x05, 0x06, 0x09, 0x0A, 0x0C, 0x12, 0x13, 0x14, 0x15, 0x16, 0x17, 0x18,
    0x1A, 0x1E, 0x30, 0x31]

/-- Whether a byte is a tag: one of the common ones, or a number below 31 that has its meaning
from the place where it stands. -/
def isTag (b : UInt8) : Bool :=
  if b < 0x40 then commonTags.contains b else b &&& 0x1F != 0x1F

/-- The first element and what follows it. Tags of more than one byte are not read. -/
def first? : Bytes → Option (Der × Bytes)
  | [] => none
  | tag :: bs => do
    let (n, bs) ← length? bs
    if isTag tag ∧ n ≤ bs.length then some (⟨tag, bs.take n⟩, bs.drop n) else none

/-- The elements of a byte string, if there are at most `fuel` of them. -/
def listWithin : (fuel : Nat) → Bytes → Option (List Der)
  | _, [] => some []
  | 0, _ => none
  | fuel + 1, bs => do
    let (e, rest) ← first? bs
    return e :: (← listWithin fuel rest)

/-- The elements that a byte string is made of. Each has at least one byte. -/
def list? (bs : Bytes) : Option (List Der) := listWithin bs.length bs

/-- The element that a byte string is made of. -/
def one? (bs : Bytes) : Option Der :=
  match list? bs with
  | some [e] => some e
  | _ => none

/-! ## Sequences -/

def sequenceTag : UInt8 := 0x30

/-- Elements in a row, as one element. -/
def sequence (es : List Der) : Der := ⟨sequenceTag, es.flatMap encode⟩

/-- The elements of a sequence. -/
def members? (e : Der) : Option (List Der) := if e.tag = sequenceTag then list? e.content else none

/-! ## Numbers -/

def integerTag : UInt8 := 0x02

/-- The bytes of a number: as many as it needs with a first bit of zero. -/
def natBytes (n : Nat) : Bytes := Bytes.bigEndian ((n.log2 + 1) / 8 + 1) n

/-- A number as an element. -/
def ofNat (n : Nat) : Der := ⟨integerTag, natBytes n⟩

/-- The number that an element is, if it is not negative. -/
def nat? (e : Der) : Option Nat :=
  let n := Bytes.ofBigEndian e.content
  if e = ofNat n then some n else none

theorem ofBigEndian_natBytes (n : Nat) : Bytes.ofBigEndian (natBytes n) = n := by
  refine Bytes.ofBigEndian_bigEndian ?_
  have hlog : n < 2 ^ (n.log2 + 1) := Nat.lt_log2_self
  refine Nat.lt_of_lt_of_le hlog ?_
  rw [Bytes.capacity, Nat.one_shiftLeft]
  exact Nat.pow_le_pow_right (by decide) (by omega)

/-- Reading a number gives back what was written. -/
theorem nat?_ofNat (n : Nat) : (ofNat n).nat? = some n := by
  simp [nat?, ofNat, ofBigEndian_natBytes]

/-- A number has one spelling. -/
theorem eq_ofNat_of_nat? {e : Der} {n : Nat} (h : e.nat? = some n) : e = ofNat n := by
  simp only [nat?, Option.ite_none_right_eq_some, Option.some.injEq] at h
  exact h.2 ▸ h.1

/-! ## Strings and names -/

def octetsTag : UInt8 := 0x04

/-- The bytes that an element is. -/
def octets? (e : Der) : Option Bytes := if e.tag = octetsTag then some e.content else none

/-- Bits in whole bytes, as an element. -/
def bits (bs : Bytes) : Der := ⟨0x03, 0 :: bs⟩

/-- Nothing, as an element. -/
def nothing : Der := ⟨0x05, []⟩

/-- A number to the base of 128; all digits but the last are marked. -/
def base128 (n : Nat) : Bytes :=
  let width := n.log2 / 7 + 1
  (List.range width).map fun i =>
    let above := width - 1 - i
    UInt8.ofNat ((n >>> (7 * above)) % 128 + if above = 0 then 0 else 128)

/-- The name of an object, which is a path in a tree. The first two steps are one number. -/
def name : (path : List Nat) → Der
  | a :: b :: path => ⟨0x06, base128 (40 * a + b) ++ path.flatMap base128⟩
  | _ => ⟨0x06, []⟩

/-- An algorithm and its parameters. -/
def algorithm (path : List Nat) (parameters : Der) : Der := sequence [name path, parameters]

end Der

end KvBridge
