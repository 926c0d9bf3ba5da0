import KvBridge.Bytes

/-!
# Base 64

Three bytes are written as four characters of an alphabet of 64. A text for mail is filled up to a
multiple of four characters, a text for addresses is not.

* `Base64.encode`, `Base64.encodeUrl`;
* `Base64.decode?`: the bytes of a text for mail, which must be the one that encoding gives.
-/

namespace KvBridge.Base64

/-- The first 62 characters of both alphabets. -/
def common : List Char :=
  "ABCDEFGHIJKLMNOPQRSTUVWXYZabcdefghijklmnopqrstuvwxyz0123456789".toList

def alphabet : List Char := common ++ ['+', '/']

def alphabetUrl : List Char := common ++ ['-', '_']

/-- The characters of up to three bytes. -/
def group (alphabet : Array Char) (bs : Bytes) : List Char :=
  let n := Bytes.ofBigEndian (bs ++ List.replicate (3 - bs.length) 0)
  [n / 262144, n / 4096 % 64, n / 64 % 64, n % 64].map (alphabet.getD · 'A') |>.take (bs.length + 1)

/-- The characters of a byte string, without filling. -/
def body (alphabet : Array Char) : Bytes → List Char
  | a :: b :: c :: bs => group alphabet [a, b, c] ++ body alphabet bs
  | [] => []
  | bs => group alphabet bs

/-- A text for mail. -/
def encode (bs : Bytes) : String :=
  let cs := body alphabet.toArray bs
  String.ofList (cs ++ List.replicate ((4 - cs.length % 4) % 4) '=')

/-- A text for addresses. -/
def encodeUrl (bs : Bytes) : String := String.ofList (body alphabetUrl.toArray bs)

/-- The value of a character of a text for mail. -/
def value? (b : UInt8) : Option Nat :=
  if 0x41 ≤ b ∧ b ≤ 0x5A then some (b.toNat - 0x41)
  else if 0x61 ≤ b ∧ b ≤ 0x7A then some (b.toNat - 0x61 + 26)
  else if 0x30 ≤ b ∧ b ≤ 0x39 then some (b.toNat - 0x30 + 52)
  else if b = 0x2B then some 62
  else if b = 0x2F then some 63
  else none

/-- The character that fills up a text for mail. -/
def filling : UInt8 := 0x3D

/-- The bytes of four characters, of which `missing` are missing. The bits that would belong to
missing bytes must be zero. -/
def ungroup? (cs : Bytes) (missing : Nat) : Option Bytes := do
  let vs ← cs.mapM value?
  let n := (vs ++ List.replicate missing 0).foldl (64 * · + ·) 0
  if n % Bytes.capacity missing = 0 then some ((Bytes.bigEndian 3 n).take (3 - missing)) else none

/-- The bytes of a text for mail. Filling stands at the end only. -/
def decode? : Bytes → Option Bytes
  | [] => some []
  | [a, b, 0x3D, 0x3D] => ungroup? [a, b] 2
  | [a, b, c, 0x3D] => ungroup? [a, b, c] 1
  | a :: b :: c :: d :: cs => do
    let bs ← ungroup? [a, b, c, d] 0
    return bs ++ (← decode? cs)
  | _ => none

end KvBridge.Base64
