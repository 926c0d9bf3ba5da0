import KvBridge.Bytes

/-!
# Text as bytes

Text is written in UTF-8. Bytes are read back in pieces: a piece is one character, or the longest
run of bytes that starts a character and does not finish it.

* `encode`: the bytes of a text;
* `decode?`: the text, when every piece is a character;
* `decodeLossy`: the text with one replacement character for each piece that is none.
-/

namespace KvBridge.Utf8

/-- The bytes of a text. -/
def encode (s : String) : Bytes := s.toList.flatMap String.utf8EncodeChar

theorem encode_append (s t : String) : encode (s ++ t) = encode s ++ encode t := by
  rw [encode, String.toList_append, List.flatMap_append]
  rfl

/-- What a first byte of more than one announces: the number of bytes that follow, the range that
the first of these must lie in, and the first byte's share of the code point. -/
structure Lead where
  follow : Nat
  low : UInt8
  high : UInt8
  bits : Nat

/-- The first bytes of the characters beyond the first 128. The ranges leave out longer spellings
of shorter characters, the surrogates, and what lies beyond the last code point. -/
def lead? (b : UInt8) : Option Lead :=
  if 0xC2 ≤ b ∧ b ≤ 0xDF then some ⟨1, 0x80, 0xBF, b.toNat - 0xC0⟩
  else if b = 0xE0 then some ⟨2, 0xA0, 0xBF, 0⟩
  else if b = 0xED then some ⟨2, 0x80, 0x9F, 0xD⟩
  else if 0xE1 ≤ b ∧ b ≤ 0xEF then some ⟨2, 0x80, 0xBF, b.toNat - 0xE0⟩
  else if b = 0xF0 then some ⟨3, 0x90, 0xBF, 0⟩
  else if 0xF1 ≤ b ∧ b ≤ 0xF3 then some ⟨3, 0x80, 0xBF, b.toNat - 0xF0⟩
  else if b = 0xF4 then some ⟨3, 0x80, 0x8F, 4⟩
  else none

/-- Reads `n` bytes that continue a character, the first of them between `low` and `high`.
Stops before the first byte that does not fit. -/
def continuation : (n : Nat) → (low high : UInt8) → (bits : Nat) → Bytes → Option Nat × Bytes
  | 0, _, _, bits, bs => (some bits, bs)
  | _ + 1, _, _, _, [] => (none, [])
  | n + 1, low, high, bits, b :: bs =>
    if low ≤ b ∧ b ≤ high then continuation n 0x80 0xBF (bits * 64 + (b.toNat - 0x80)) bs
    else (none, b :: bs)

/-- The piece that starts with the byte `b`, and the bytes after it. -/
def piece (b : UInt8) (bs : Bytes) : Option Char × Bytes :=
  if b < 0x80 then (some (Char.ofNat b.toNat), bs)
  else
    match lead? b with
    | none => (none, bs)
    | some l =>
      let (code, rest) := continuation l.follow l.low l.high l.bits bs
      (code.map Char.ofNat, rest)

/-- The pieces of a byte string, at most `fuel` of them. -/
def piecesWithin : (fuel : Nat) → Bytes → List (Option Char)
  | 0, _ => []
  | _, [] => []
  | fuel + 1, b :: bs =>
    let (p, rest) := piece b bs
    p :: piecesWithin fuel rest

/-- The pieces of a byte string. Each holds at least one byte, so there are no more than bytes. -/
def pieces (bs : Bytes) : List (Option Char) := piecesWithin bs.length bs

/-- The text that the bytes spell, if they spell one. -/
def decode? (bs : Bytes) : Option String := ((pieces bs).mapM id).map String.ofList

/-- The text with a replacement character for each piece that is no character. -/
def decodeLossy (bs : Bytes) : String :=
  String.ofList ((pieces bs).map (·.getD '\uFFFD'))

end KvBridge.Utf8
