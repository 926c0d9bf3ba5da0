import KvBridge.Crypto.Base64
import KvBridge.Text.Utf8

/-!
# Bytes are read back from base 64

Up to three bytes are one number of 24 bits, and so are up to four characters: its digits to the
base of 64. A text for mail is read back to the bytes that it was made of (`decode?_encode`). A text
for addresses is a text for mail without its filling and with two other characters in the alphabet,
so it is read back in the same way (`decodeUrl?_encodeUrl`).
-/

namespace KvBridge.Base64

/-! ## Digits -/

/-- The byte of a digit in a text for mail. -/
def digit (n : Nat) : UInt8 := UInt8.ofNat (alphabet.toArray.getD n 'A').toNat

theorem encodeChar_digit : ∀ n < 64,
    String.utf8EncodeChar (alphabet.toArray.getD n 'A') = [digit n] := by decide +kernel

theorem value?_digit : ∀ n < 64, value? (digit n) = some n := by decide +kernel

theorem digit_ne_filling : ∀ n < 64, digit n ≠ filling := by decide +kernel

/-- The four digits of a number of 24 bits. -/
def digits (n : Nat) : List Nat := [n / 262144, n / 4096 % 64, n / 64 % 64, n % 64]

theorem lt_of_mem_digits {n d : Nat} (hn : n < 16777216) (h : d ∈ digits n) : d < 64 := by
  simp only [digits, List.mem_cons, List.not_mem_nil, or_false] at h
  omega

/-! ## Groups -/

/-- The number of up to three bytes. Those that are missing count as zero. -/
def number (bs : Bytes) : Nat := Bytes.ofBigEndian (bs ++ List.replicate (3 - bs.length) 0)

theorem number_lt {bs : Bytes} (h : bs.length ≤ 3) : number bs < 16777216 := by
  have hl : (bs ++ List.replicate (3 - bs.length) 0).length = 3 := by simp; omega
  have hlt := Bytes.ofBigEndian_lt (bs ++ List.replicate (3 - bs.length) 0)
  rwa [hl] at hlt

theorem bigEndian_number {bs : Bytes} (h : bs.length ≤ 3) :
    (Bytes.bigEndian 3 (number bs)).take bs.length = bs := by
  have hl : (bs ++ List.replicate (3 - bs.length) 0).length = 3 := by simp; omega
  have spelt := Bytes.bigEndian_ofBigEndian (bs ++ List.replicate (3 - bs.length) 0)
  rw [hl] at spelt
  rw [number, spelt, List.take_left]

/-- What the missing bytes would add to a number is zero. -/
theorem number_mod {bs : Bytes} (h : bs.length ≤ 3) :
    number bs % Bytes.capacity (3 - bs.length) = 0 := by
  match bs, h with
  | [], _ => rfl
  | [a], _ => 
    simp [number, Bytes.ofBigEndian, Bytes.ofBigEndianFrom, Bytes.capacity]
    omega
  | [a, b], _ =>
    simp [number, Bytes.ofBigEndian, Bytes.ofBigEndianFrom, Bytes.capacity]
  | [a, b, c], _ => exact Nat.mod_one _

/-- The bytes of the characters of up to three bytes. -/
def groupBytes (bs : Bytes) : Bytes := ((digits (number bs)).take (bs.length + 1)).map digit

theorem encode_group {bs : Bytes} (h : bs.length ≤ 3) :
    (group alphabet.toArray bs).flatMap String.utf8EncodeChar = groupBytes bs := by
  have plain : ∀ d ∈ (digits (number bs)).take (bs.length + 1),
      String.utf8EncodeChar (alphabet.toArray.getD d 'A') = [digit d] := fun d hd =>
    encodeChar_digit d (lt_of_mem_digits (number_lt h) (List.mem_of_mem_take hd))
  have chars : group alphabet.toArray bs =
      ((digits (number bs)).take (bs.length + 1)).map (alphabet.toArray.getD · 'A') :=
    List.map_take.symm
  rw [chars, groupBytes, List.flatMap_map, List.flatMap_def, List.map_congr_left plain,
    ← List.flatMap_def, List.map_eq_flatMap]

theorem mapM_value?_digit {ds : List Nat} (h : ∀ d ∈ ds, d < 64) :
    (ds.map digit).mapM value? = some ds := by
  induction ds with
  | nil => rfl
  | cons d ds ih =>
    obtain ⟨hd, hds⟩ := List.forall_mem_cons.1 h
    simp [value?_digit d hd, ih hds]

/-- Up to three bytes are read back from their characters. -/
theorem ungroup?_groupBytes {bs : Bytes} (h0 : 0 < bs.length) (h : bs.length ≤ 3) :
    ungroup? (groupBytes bs) (3 - bs.length) = some bs := by
  have small := number_lt h
  have zero := number_mod h
  have spelt : ((digits (number bs)).take (bs.length + 1) ++
      List.replicate (3 - bs.length) 0).foldl (64 * · + ·) 0 = number bs := by
    match bs, h0, h with
    | [a], _, _ =>
      simp [digits, Bytes.capacity] at *
      omega
    | [a, b], _, _ =>
      simp [digits, Bytes.capacity] at *
      omega
    | [a, b, c], _, _ =>
      simp [digits, Bytes.capacity] at *
      omega
  have digits : ∀ d ∈ (digits (number bs)).take (bs.length + 1), d < 64 := fun d hd =>
    lt_of_mem_digits small (List.mem_of_mem_take hd)
  have values := mapM_value?_digit digits
  have left : 3 - (3 - bs.length) = bs.length := by omega
  simp only [ungroup?, groupBytes, values, spelt, bind, Option.bind, if_pos zero, left,
    bigEndian_number h]

/-! ## Texts for mail -/

/-- How many characters fill up a text of so many characters. -/
def missing (length : Nat) : Nat := (4 - length % 4) % 4

/-- The bytes of characters, and of the filling behind them. -/
def filled (cs : List Char) : Bytes :=
  (cs ++ List.replicate (missing cs.length) '=').flatMap String.utf8EncodeChar

theorem flatMap_filling (n : Nat) :
    (List.replicate n '=').flatMap String.utf8EncodeChar = List.replicate n filling := by
  induction n with
  | zero => rfl
  | succ n ih =>
    rw [List.replicate_succ, List.flatMap_cons, ih]
    rfl

/-- The first three bytes of a text are in its first four characters, whatever follows. -/
theorem filled_group {bs : Bytes} (h : bs.length = 3) (cs : List Char) :
    filled (group alphabet.toArray bs ++ cs) = groupBytes bs ++ filled cs := by
  have four : (group alphabet.toArray bs).length = 4 := by simp [group, h]
  have same : missing (group alphabet.toArray bs ++ cs).length = missing cs.length := by
    rw [List.length_append, four, missing, Nat.add_mod_left, missing]
  rw [filled, same, List.append_assoc, List.flatMap_append, encode_group (Nat.le_of_eq h), filled]

/-- What is left of a text is filled up. -/
theorem filled_last {bs : Bytes} (h0 : 0 < bs.length) (h : bs.length < 3) :
    filled (group alphabet.toArray bs) =
      groupBytes bs ++ List.replicate (3 - bs.length) filling := by
  have length : (group alphabet.toArray bs).length = bs.length + 1 := by
    simp [group]
    omega
  have gap : missing (bs.length + 1) = 3 - bs.length := by
    rw [missing]
    omega
  rw [filled, length, gap, List.flatMap_append, encode_group (Nat.le_of_lt h), flatMap_filling]

theorem decode?_four {a b c d : UInt8} (h : d ≠ filling) (cs : Bytes) :
    decode? (a :: b :: c :: d :: cs) =
      (ungroup? [a, b, c, d] 0).bind fun bs => (decode? cs).map (bs ++ ·) := by
  rw [decode?]
  · cases ungroup? [a, b, c, d] 0 <;> cases decode? cs <;> rfl
  · exact fun _ hd _ => h hd
  · exact fun hd _ => h hd

theorem decode?_three {a b c : UInt8} (h : c ≠ filling) :
    decode? [a, b, c, filling] = ungroup? [a, b, c] 1 := by
  rw [filling, decode?]
  exact h

theorem digit_mod_ne_filling (n : Nat) : digit (n % 64) ≠ filling :=
  digit_ne_filling _ (Nat.mod_lt n (by decide))

/-- Three bytes are read back from the start of a text. -/
theorem decode?_group {bs : Bytes} (h : bs.length = 3) (cs : Bytes) :
    decode? (groupBytes bs ++ cs) = (decode? cs).map (bs ++ ·) := by
  have read := ungroup?_groupBytes (by omega : 0 < bs.length) (Nat.le_of_eq h)
  match bs, h with
  | [a, b, c], _ =>
    exact (decode?_four (digit_mod_ne_filling _) cs).trans (congrArg (Option.bind · _) read)

/-- One or two bytes are read back from the end of a text. -/
theorem decode?_last {bs : Bytes} (h0 : 0 < bs.length) (h : bs.length < 3) :
    decode? (groupBytes bs ++ List.replicate (3 - bs.length) filling) = some bs := by
  have read := ungroup?_groupBytes h0 (Nat.le_of_lt h)
  match bs, h0, h with
  | [a], _, _ => exact read
  | [a, b], _, _ => exact (decode?_three (digit_mod_ne_filling _)).trans read

theorem body_of_short (alphabet : Array Char) {bs : Bytes} (h0 : 0 < bs.length)
    (h : bs.length < 3) : body alphabet bs = group alphabet bs := by
  match bs, h0, h with
  | [_], _, _ | [_, _], _, _ => rfl

theorem decode?_filled (bs : Bytes) : decode? (filled (body alphabet.toArray bs)) = some bs := by
  induction bs using body.induct with
  | case1 a b c bs ih => rw [body, filled_group rfl, decode?_group rfl, ih, Option.map_some]; rfl
  | case2 => rfl
  | case3 bs more none =>
    have h0 : 0 < bs.length := List.length_pos_iff.2 none
    have h : bs.length < 3 := by
      match bs, more with
      | [], _ | [_], _ | [_, _], _ => simp
      | a :: b :: c :: bs, more => exact (more a b c bs rfl).elim
    rw [body_of_short _ h0 h, filled_last h0 h, decode?_last h0 h]

/-- A text for mail is read back to the bytes that it was made of. -/
theorem decode?_encode (bs : Bytes) : decode? (Utf8.encode (encode bs)) = some bs := by
  rw [Utf8.encode, encode, String.toList_ofList]
  exact decode?_filled bs

/-! ## Texts for addresses -/

/-- The character of a text for mail that stands for the same digit. -/
def mailChar (c : Char) : Char := if c = '-' then '+' else if c = '_' then '/' else c

/-- The bytes of a text for addresses. -/
def decodeUrl? (cs : List Char) : Option Bytes := decode? (filled (cs.map mailChar))

theorem mailChar_getD (n : Nat) :
    mailChar (alphabetUrl.toArray.getD n 'A') = alphabet.toArray.getD n 'A' := by
  have same : alphabetUrl.map mailChar = alphabet := by decide +kernel
  simp only [Array.getD_eq_getD_getElem?, List.getElem?_toArray, ← same, List.getElem?_map]
  cases alphabetUrl[n]? <;> rfl

theorem map_mailChar_group (bs : Bytes) :
    (group alphabetUrl.toArray bs).map mailChar = group alphabet.toArray bs := by
  simp only [group, List.map_take, List.map_cons, List.map_nil, mailChar_getD]

theorem map_mailChar_body (bs : Bytes) :
    (body alphabetUrl.toArray bs).map mailChar = body alphabet.toArray bs := by
  fun_induction body alphabetUrl.toArray bs with
  | case1 a b c bs ih => rw [List.map_append, map_mailChar_group, ih, body]
  | case2 => rfl
  | case3 bs more none =>
    rw [map_mailChar_group, body]
    · exact more
    · exact none

/-- A text for addresses is read back to the bytes that it was made of. -/
theorem decodeUrl?_encodeUrl (bs : Bytes) : decodeUrl? (encodeUrl bs).toList = some bs := by
  rw [decodeUrl?, encodeUrl, String.toList_ofList, map_mailChar_body]
  exact decode?_filled bs

theorem mem_alphabet_of_mem_group {alphabet : List Char} {bs : Bytes} {c : Char}
    (h : c ∈ group alphabet.toArray bs) : c ∈ 'A' :: alphabet := by
  obtain ⟨n, -, rfl⟩ := List.mem_map.1 (List.mem_of_mem_take h)
  simp only [Array.getD_eq_getD_getElem?, List.getElem?_toArray]
  cases hn : alphabet[n]? with
  | none => exact List.mem_cons_self
  | some c => exact List.mem_cons_of_mem _ (List.mem_of_getElem? hn)

/-- A text in base 64 has no characters but those of its alphabet. -/
theorem mem_alphabet_of_mem_body {alphabet : List Char} {bs : Bytes} {c : Char}
    (h : c ∈ body alphabet.toArray bs) : c ∈ 'A' :: alphabet := by
  fun_induction body alphabet.toArray bs with
  | case1 a b d bs ih => exact (List.mem_append.1 h).elim mem_alphabet_of_mem_group ih
  | case2 => cases h
  | case3 bs more none => exact mem_alphabet_of_mem_group h

theorem dot_notMem_encodeUrl (bs : Bytes) : '.' ∉ (encodeUrl bs).toList := by
  rw [encodeUrl, String.toList_ofList]
  intro h
  have dot : '.' ∉ 'A' :: alphabetUrl := by decide +kernel
  exact dot (mem_alphabet_of_mem_body h)

end KvBridge.Base64
