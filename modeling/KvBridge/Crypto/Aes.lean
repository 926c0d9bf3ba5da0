import KvBridge.Bytes

/-!
# The block cipher AES, backwards

A block is sixteen bytes. Decryption undoes the rounds of encryption one after the other; the keys
of the rounds are stretched from the key. In a chain of blocks each was combined with the one
before it, and the last is filled up with bytes that say how many they are.

* `Aes.decryptBlock`: one block;
* `Aes.decryptChain?`: a chain of blocks without its filling.
-/

namespace KvBridge.Aes

/-- Multiplies by two in the field of 256 elements. -/
def double (x : UInt8) : UInt8 := (x <<< 1) ^^^ (if x < 0x80 then 0 else 0x1B)

/-- The product of two elements of the field, and `acc`; so many binary digits of the second
count. -/
def timesFrom : (digits : Nat) → (x y acc : UInt8) → UInt8
  | 0, _, _, acc => acc
  | digits + 1, x, y, acc =>
    timesFrom digits (double x) (y >>> 1) (if y &&& 1 = 1 then acc ^^^ x else acc)

/-- The product of two elements of the field. -/
def times (x y : UInt8) : UInt8 := timesFrom 8 x y 0

/-- The product of `acc` and so many elements, each the square of the one before it. -/
def squaresFrom : (count : Nat) → (square acc : UInt8) → UInt8
  | 0, _, acc => acc
  | count + 1, square, acc => squaresFrom count (times square square) (times acc square)

/-- The inverse of an element of the field, which is its power 254; zero is its own. -/
def inverse (x : UInt8) : UInt8 := squaresFrom 7 (times x x) 1

/-- The substitution of a byte. -/
def substitute (x : UInt8) : UInt8 :=
  let i := inverse x
  let turn (n : UInt8) : UInt8 := (i <<< n) ||| (i >>> (8 - n))
  i ^^^ turn 1 ^^^ turn 2 ^^^ turn 3 ^^^ turn 4 ^^^ 0x63

/-- The substitutions of all bytes. -/
def substitutions : Array UInt8 := (Array.range 256).map fun n => substitute (UInt8.ofNat n)

/-- The bytes by what they are substituted with. -/
def restorations : Array UInt8 :=
  (Array.range 256).foldl
    (fun t n => t.setIfInBounds (substitutions.getD n 0).toNat (UInt8.ofNat n))
    (Array.replicate 256 0)

def restore (x : UInt8) : UInt8 := restorations.getD x.toNat 0

/-- A word of the stretched key: the sum of the word a key's length before and the last word, which
is changed at the start of each key's length, and for long keys in the middle. -/
def nextWord (keyWords index : Nat) (round : UInt8) (before last : Bytes) : Bytes :=
  let sub (bs : Bytes) : Bytes := bs.map fun b => substitutions.getD b.toNat 0
  if index % keyWords = 0 then
    match sub last with
    | a :: rest => Bytes.xor before (match rest ++ [a] with
      | b :: bs => (b ^^^ round) :: bs
      | [] => [])
    | [] => before
  else if 6 < keyWords ∧ index % keyWords = 4 then Bytes.xor before (sub last)
  else Bytes.xor before last

/-- The stretched key: words from `index` on, `count` of them. -/
def stretch (keyWords : Nat) :
    (count index : Nat) → (round : UInt8) → Array Bytes → Array Bytes
  | 0, _, _, ws => ws
  | count + 1, index, round, ws =>
    let w := nextWord keyWords index round (ws.getD (index - keyWords) []) (ws.getD (index - 1) [])
    stretch keyWords count (index + 1) (if index % keyWords = 0 then double round else round)
      (ws.push w)

/-- The keys of the rounds, last one first. -/
def roundKeys (key : Bytes) : List Bytes :=
  let keyWords := key.length / 4
  let words := 4 * (keyWords + 7)
  let ws := stretch keyWords (words - keyWords) keyWords 1 (Bytes.chunks 4 key).toArray
  (Bytes.chunks 16 ws.toList.flatten).reverse

/-- Shifts the rows of a block back; the block stands column by column. -/
def shiftBack (block : Bytes) : Bytes :=
  let a := block.toArray
  (List.range 16).map fun i => a.getD ((i + 16 - 4 * (i % 4)) % 16) 0

/-- Unmixes a column. -/
def unmixColumn (column : Bytes) : Bytes :=
  match column with
  | [a, b, c, d] =>
    let mix (w x y z : UInt8) : UInt8 := times w 14 ^^^ times x 11 ^^^ times y 13 ^^^ times z 9
    [mix a b c d, mix b c d a, mix c d a b, mix d a b c]
  | other => other

/-- Undoes a round. -/
def undoRound (block key : Bytes) : Bytes :=
  let block := Bytes.xor ((shiftBack block).map restore) key
  (Bytes.chunks 4 block).flatMap unmixColumn

/-- Undoes the rounds of all keys; there is no mixing in the one that came last. -/
def decryptBlock (keys : List Bytes) (block : Bytes) : Bytes :=
  match keys with
  | [] => block
  | last :: keys =>
    match keys.reverse with
    | [] => Bytes.xor block last
    | first :: middle =>
      let block := middle.reverse.foldl undoRound (Bytes.xor block last)
      Bytes.xor ((shiftBack block).map restore) first

/-- Undoes a chain of blocks. -/
def decryptBlocks (keys : List Bytes) : (previous : Bytes) → List Bytes → Bytes
  | _, [] => []
  | previous, block :: blocks =>
    Bytes.xor (decryptBlock keys block) previous ++ decryptBlocks keys block blocks

/-- Takes the filling off. -/
def unfill? (bs : Bytes) : Option Bytes :=
  match bs.reverse with
  | [] => none
  | n :: _ =>
    if 0 < n ∧ n ≤ 16 ∧ (bs.reverse.take n.toNat).all (· == n) then
      some (bs.take (bs.length - n.toNat))
    else none

/-- The bytes that a chain of whole blocks was made of. -/
def decryptChain? (key iv bs : Bytes) : Option Bytes :=
  if bs.length % 16 = 0 then unfill? (decryptBlocks (roundKeys key) iv (Bytes.chunks 16 bs))
  else none

end KvBridge.Aes
