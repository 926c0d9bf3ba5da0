import KvBridge.Proofs.Text.Decoding
import KvBridge.Json.Value
import Mathlib.Data.Nat.Digits.Lemmas

/-!
# A document is read back from its text

A document without a break can be written down (`Doc.written`), and is read back from what was
written (`readDoc_written`): every name and text, every number with the digits that it is spelt in,
and every item and member in its place.

* `Doc.isWhole`: a document without a break, whose numbers can be spelt;
* `Numeral.ofInt`: how a whole number is spelt;
* `readLiteral_written`, `readNumeral_written`: texts and numbers.

Reading takes steps of which there must be enough. The induction is on the document, with the text
that follows it and the steps that are left general: each level needs a byte and two steps.
-/

namespace KvBridge.Json

/-! ## Texts -/

/-- The bytes spell the character in a text: reading goes over them, and they join to it. -/
def Spells (bs : Bytes) (c : Char) : Prop :=
  ∃ us, (∀ rest, scanLiteral (bs ++ rest) = (us ++ (scanLiteral rest).1, (scanLiteral rest).2)) ∧
    ∀ more, joinUnits none (us ++ more) =
      (joinUnits none more).map (String.utf8EncodeChar c ++ ·)

theorem scanLiteral_plain {b : UInt8} (quote : b ≠ 0x22) (slash : b ≠ 0x5C) (low : 0x20 ≤ b)
    (bs : Bytes) :
    scanLiteral (b :: bs) = (.byte b :: (scanLiteral bs).1, (scanLiteral bs).2) := by
  rw [scanLiteral]
  · rw [if_neg (UInt8.not_lt.2 low)]
  all_goals grind

theorem joinUnits_byte (b : UInt8) (us : List Unit16) :
    joinUnits none (.byte b :: us) = (joinUnits none us).map (b :: ·) := by rw [joinUnits]

theorem joinUnits_spelt {n : Nat} (h : n < 0xD800) (us : List Unit16) :
    joinUnits none (.spelt n :: us) =
      (joinUnits none us).map (String.utf8EncodeChar (Char.ofNat n) ++ ·) := by
  have low : isLowUnit n = false := by simp only [isLowUnit]; grind
  have high : isHighUnit n = false := by simp only [isHighUnit]; grind
  rw [joinUnits.eq_def]
  simp only [low, high, Bool.false_eq_true, if_false]

/-- Bytes that are neither quotes nor backslashes nor controls stand for themselves. -/
theorem spells_plain {c : Char}
    (h : ∀ b ∈ String.utf8EncodeChar c, b ≠ 0x22 ∧ b ≠ 0x5C ∧ 0x20 ≤ b) :
    Spells (String.utf8EncodeChar c) c := by
  refine ⟨(String.utf8EncodeChar c).map .byte, fun rest => ?_, fun more => ?_⟩
  · generalize String.utf8EncodeChar c = bs at h
    induction bs with
    | nil => rfl
    | cons b bs ih =>
      obtain ⟨⟨quote, slash, low⟩, others⟩ := List.forall_mem_cons.1 h
      rw [List.cons_append, scanLiteral_plain quote slash low, ih others]
      rfl
  · generalize String.utf8EncodeChar c = bs
    induction bs with
    | nil =>
      change joinUnits none more = _
      cases joinUnits none more <;> rfl
    | cons b bs ih =>
      rw [List.map_cons, List.cons_append, joinUnits_byte, ih]
      cases joinUnits none more <;> rfl

/-- The bytes of a character that stands for itself stand for themselves. -/
theorem byte_plain {c : Char} (quote : c ≠ '"') (slash : c ≠ '\\') (low : ¬ c.toNat < 0x20)
    {b : UInt8} (hb : b ∈ String.utf8EncodeChar c) : b ≠ 0x22 ∧ b ≠ 0x5C ∧ 0x20 ≤ b := by
  have quote : c.val.toNat ≠ 0x22 := fun h => quote (Char.toNat_inj.1 h)
  have slash : c.val.toNat ≠ 0x5C := fun h => slash (Char.toNat_inj.1 h)
  have low : 0x20 ≤ c.val.toNat := Nat.le_of_not_lt low
  rw [String.utf8EncodeChar] at hb
  generalize c.val.toNat = v at *
  have code : 0x20 ≤ b.toNat ∧ b.toNat ≠ 0x22 ∧ b.toNat ≠ 0x5C := by
    split_ifs at hb <;> simp only [List.mem_cons, List.not_mem_nil, or_false] at hb
    · subst hb
      rw [UInt8.toNat_ofNat']
      omega
    · obtain rfl | rfl := hb <;> rw [UInt8.toNat_ofNat'] <;> omega
    · obtain rfl | rfl | rfl := hb <;> rw [UInt8.toNat_ofNat'] <;> omega
    · obtain rfl | rfl | rfl | rfl := hb <;> rw [UInt8.toNat_ofNat'] <;> omega
  obtain ⟨low, quote, slash⟩ := code
  exact ⟨fun h => quote (h ▸ rfl), fun h => slash (h ▸ rfl), UInt8.le_iff_toNat_le.2 low⟩

/-- A letter after a backslash spells a character of one byte. -/
theorem spells_escaped {letter c : Char} (l b : UInt8) (hl : String.utf8EncodeChar letter = [l])
    (hc : String.utf8EncodeChar c = [b]) (other : l ≠ 0x75) (h : escaped? l = some b) :
    Spells (['\\', letter].flatMap String.utf8EncodeChar) c := by
  have bytes : ['\\', letter].flatMap String.utf8EncodeChar = [0x5C, l] := by
    rw [List.flatMap_cons, List.flatMap_cons, List.flatMap_nil, hl]
    rfl
  rw [bytes]
  refine ⟨[.byte b], fun rest => ?_, fun more => ?_⟩
  · rw [List.cons_append, List.cons_append, scanLiteral, h]
    · rfl
    all_goals grind
  · rw [List.cons_append, joinUnits_byte, hc]
    rfl

theorem spells_control {n : Nat} (h : n < 0x20) :
    Spells ((escapedControl (Char.ofNat n)).flatMap String.utf8EncodeChar) (Char.ofNat n) := by
  refine ⟨[.spelt n], ?_, fun more => ?_⟩
  · interval_cases n <;> exact fun _ => rfl
  · exact joinUnits_spelt (h.trans (by decide)) more

/-- Every character is spelt by what is written for it. -/
theorem spells_writtenChar (c : Char) :
    Spells ((writtenChar c).flatMap String.utf8EncodeChar) c := by
  by_cases quote : c = '"'
  · subst quote; exact spells_escaped 0x22 0x22 rfl rfl (by decide) rfl
  by_cases slash : c = '\\'
  · subst slash; exact spells_escaped 0x5C 0x5C rfl rfl (by decide) rfl
  by_cases backspace : c = '\x08'
  · subst backspace; exact spells_escaped 0x62 0x08 rfl rfl (by decide) rfl
  by_cases tab : c = '\t'
  · subst tab; exact spells_escaped 0x74 0x09 rfl rfl (by decide) rfl
  by_cases line : c = '\n'
  · subst line; exact spells_escaped 0x6E 0x0A rfl rfl (by decide) rfl
  by_cases form : c = '\x0c'
  · subst form; exact spells_escaped 0x66 0x0C rfl rfl (by decide) rfl
  by_cases carriage : c = '\r'
  · subst carriage; exact spells_escaped 0x72 0x0D rfl rfl (by decide) rfl
  rw [writtenChar, if_neg quote, if_neg slash, if_neg backspace, if_neg tab, if_neg line,
    if_neg form, if_neg carriage]
  by_cases control : c.toNat < 0x20
  · have spelt := spells_control control
    rw [Char.ofNat_toNat] at spelt
    rwa [if_pos control]
  · rw [if_neg control, List.flatMap_cons, List.flatMap_nil, List.append_nil]
    exact spells_plain fun b hb => byte_plain quote slash control hb

/-- What stands between the quotes of a text that is written down. -/
def spelling (cs : List Char) : Bytes :=
  cs.flatMap fun c => (writtenChar c).flatMap String.utf8EncodeChar

/-- The bytes of a text with its quotes. -/
def writtenText (s : String) : Bytes := Utf8.encode (renderText s)

theorem writtenText_eq (s : String) : writtenText s = 0x22 :: (spelling s.toList ++ [0x22]) := by
  rw [writtenText, Utf8.encode, renderText, String.toList_ofList, List.cons_append,
    List.flatMap_cons, List.flatMap_append, List.flatMap_assoc]
  rfl

theorem scanLiteral_spelling (cs : List Char) (rest : Bytes) :
    ∃ us, scanLiteral (spelling cs ++ 0x22 :: rest) = (us, .ok rest) ∧
      joinUnits none us = .ok (cs.flatMap String.utf8EncodeChar) := by
  induction cs with
  | nil => exact ⟨[], rfl, by rw [joinUnits]; rfl⟩
  | cons c cs ih =>
    obtain ⟨us, scanned, joined⟩ := ih
    obtain ⟨vs, scans, joins⟩ := spells_writtenChar c
    refine ⟨vs ++ us, ?_, ?_⟩
    · rw [spelling, List.flatMap_cons, ← spelling, List.append_assoc, scans, scanned]
    · rw [joins, joined]
      rfl

theorem literal_of_joined {s : String} {us : List Unit16}
    (h : joinUnits none us = .ok (Utf8.encode s)) : literal us = .ok s := by
  simp only [literal, h, bind, Except.bind, Utf8.decode?_encode]
  rfl

/-- A text is read back after its opening quote. -/
theorem readLiteral_spelling (s : String) (rest : Bytes) :
    readLiteral (spelling s.toList ++ 0x22 :: rest) = .ok (.ok s, rest) := by
  obtain ⟨us, scanned, joined⟩ := scanLiteral_spelling s.toList rest
  simp only [readLiteral, scanned, literal_of_joined joined]

/-! ## Numbers -/

/-- The decimal digits of a number, the most significant first. Zero has one. -/
def decimal (n : Nat) : List Nat := if n = 0 then [0] else (Nat.digits 10 n).reverse

/-- The number that digits spell. -/
def ofDecimal (ds : List Nat) : Nat := ds.foldl (10 * · + ·) 0

/-- The bytes of digits. -/
def writtenDigits (ds : List Nat) : Bytes := ds.map fun d => UInt8.ofNat (0x30 + d)

namespace Numeral

/-- The numeral is spelt as a number can be: with digits before the point that are no more than a
zero if they start with one, and digits behind it. -/
def isSpelt (n : Numeral) : Bool :=
  !n.whole.isEmpty && (n.whole.head? != some 0 || n.whole == [0]) &&
    n.whole.all (· < 10) && n.fraction.all (· < 10)

/-- A whole number as it is spelt. -/
def ofInt (n : Int) : Numeral := ⟨n < 0, decimal n.natAbs, [], none⟩

def writtenFraction (n : Numeral) : Bytes :=
  if n.fraction.isEmpty then [] else 0x2E :: writtenDigits n.fraction

def writtenExponent (n : Numeral) : Bytes :=
  match n.exponent with
  | none => []
  | some e => 0x65 :: ((if e < 0 then [0x2D] else []) ++ writtenDigits (decimal e.natAbs))

/-- The text of a numeral after its sign. -/
def writtenUnsigned (n : Numeral) : Bytes :=
  writtenDigits n.whole ++ (n.writtenFraction ++ n.writtenExponent)

def written (n : Numeral) : Bytes := (if n.negative then [0x2D] else []) ++ n.writtenUnsigned

end Numeral

theorem decimal_ne_nil (n : Nat) : decimal n ≠ [] := by
  rw [decimal]
  split_ifs with zero
  · exact List.cons_ne_nil _ _
  · exact fun none => Nat.digits_ne_nil_iff_ne_zero.2 zero (List.reverse_eq_nil_iff.1 none)

theorem lt_ten_of_mem_decimal {n d : Nat} (h : d ∈ decimal n) : d < 10 := by
  rw [decimal] at h
  split_ifs at h
  · cases List.mem_singleton.1 h
    decide
  · exact Nat.digits_lt_base (by decide) (List.mem_reverse.1 h)

/-- A number of more than one digit does not start with a zero. -/
theorem head?_decimal {n : Nat} (h : (decimal n).head? = some 0) : decimal n = [0] := by
  rw [decimal] at h ⊢
  split_ifs at h ⊢ with zero
  · rfl
  · rw [List.head?_reverse, List.getLast?_eq_getLast_of_ne_nil
      (Nat.digits_ne_nil_iff_ne_zero.2 zero), Option.some_inj] at h
    exact absurd h (Nat.getLast_digit_ne_zero 10 zero)

theorem ofDecimal_decimal (n : Nat) : ofDecimal (decimal n) = n := by
  rw [decimal]
  split_ifs with zero
  · exact zero.symm
  · rw [ofDecimal, List.foldl_reverse]
    conv_rhs => rw [← Nat.ofDigits_digits 10 n, Nat.ofDigits_eq_foldr]
    exact List.foldr_ext _ _ _ fun d _ acc => Nat.add_comm ..

/-- A number is printed by its decimal digits. -/
theorem toDigits_eq_decimal (n : Nat) : Nat.toDigits 10 n = (decimal n).map Nat.digitChar := by
  induction n using Nat.strongRecOn with
  | ind n ih =>
    by_cases small : n < 10
    · rw [Nat.toDigits_of_lt_base small, decimal]
      split_ifs with zero
      · rw [zero]
        rfl
      · rw [Nat.digits_of_lt 10 n zero small]
        rfl
    · have upper : n / 10 ≠ 0 := by omega
      have lower : n % 10 < 10 := Nat.mod_lt n (by decide)
      have parts := Nat.toDigits_append_toDigits (b := 10) (by decide) (Nat.pos_of_ne_zero upper)
        lower
      rw [Nat.div_add_mod, ih (n / 10) (by omega), Nat.toDigits_of_lt_base lower] at parts
      rw [← parts, decimal, decimal, if_neg upper, if_neg (by omega),
        Nat.digits_def' (by decide) (by omega : 0 < n), List.reverse_cons, List.map_append]
      rfl

theorem encodeChar_digitChar {d : Nat} (h : d < 10) :
    String.utf8EncodeChar (Nat.digitChar d) = [UInt8.ofNat (0x30 + d)] := by
  interval_cases d <;> rfl

theorem encode_toString (n : Nat) : Utf8.encode (toString n) = writtenDigits (decimal n) := by
  have digits : ∀ d ∈ decimal n,
      String.utf8EncodeChar (Nat.digitChar d) = [UInt8.ofNat (0x30 + d)] :=
    fun d hd => encodeChar_digitChar (lt_ten_of_mem_decimal hd)
  have printed : (toString n).toList = Nat.toDigits 10 n := String.toList_ofList
  rw [Utf8.encode, printed, toDigits_eq_decimal, List.flatMap_map, List.flatMap_def,
    List.map_congr_left digits, ← List.flatMap_def, writtenDigits, List.map_eq_flatMap]

/-- Different numbers are spelt differently. -/
theorem Numeral.ofInt_injective : Function.Injective ofInt := by
  intro m n same
  have sign : decide (m < 0) = decide (n < 0) := congrArg negative same
  have digits : m.natAbs = n.natAbs := by
    rw [← ofDecimal_decimal m.natAbs, ← ofDecimal_decimal n.natAbs]
    exact congrArg (fun numeral => ofDecimal numeral.whole) same
  rw [decide_eq_decide] at sign
  omega

/-- A number that is not negative is written as it is printed. -/
theorem Numeral.written_ofInt_natCast (n : Nat) :
    (ofInt n).written = Utf8.encode (toString n) := by
  have sign : ¬ (n : Int) < 0 := Int.not_lt.2 (Int.natCast_nonneg n)
  rw [encode_toString]
  simp [ofInt, written, writtenUnsigned, writtenFraction, writtenExponent, sign]

theorem Numeral.isSpelt_ofInt (n : Int) : (Numeral.ofInt n).isSpelt = true := by
  have zero : (decimal n.natAbs).head? ≠ some 0 ∨ decimal n.natAbs = [0] :=
    (Decidable.em _).imp_right fun first => head?_decimal (Decidable.not_not.1 first)
  have digits : ∀ d ∈ decimal n.natAbs, d < 10 := fun d => lt_ten_of_mem_decimal
  simpa [Numeral.isSpelt, Numeral.ofInt, decimal_ne_nil, zero] using digits

theorem le_foldl_digits (ds : List Nat) (n : Nat) : n ≤ ds.foldl (10 * · + ·) n := by
  induction ds generalizing n with
  | nil => exact le_rfl
  | cons d ds ih => exact (by omega : n ≤ 10 * n + d).trans (ih _)

/-- Digits before the point all count, as long as the number that they spell fits. -/
theorem foldl_whole {ds : List Nat} {n : Nat}
    (fits : ds.foldl (10 * · + ·) n < Significand.bound) :
    ds.foldl Significand.whole ⟨n, 0, true⟩ = ⟨ds.foldl (10 * · + ·) n, 0, true⟩ := by
  induction ds generalizing n with
  | nil => rfl
  | cons d ds ih =>
    have counts : Significand.whole ⟨n, 0, true⟩ d = ⟨10 * n + d, 0, true⟩ := by
      have fit : 10 * n + d < Significand.bound := (le_foldl_digits ds _).trans_lt fits
      rw [Significand.whole, if_pos ⟨rfl, by rwa [Nat.mul_comm]⟩, Nat.mul_comm n 10]
    rw [List.foldl_cons, counts]
    exact ih fits

/-- A whole number of 64 bits is what its spelling stands for. -/
theorem Numeral.number?_ofInt {n : Int} (low : -0x8000000000000000 ≤ n)
    (high : n ≤ 0x7FFFFFFFFFFFFFFF) : (ofInt n).number? = some (.whole n) := by
  have fits : n.natAbs < Significand.bound := by
    rw [Significand.bound, UInt64.size]
    omega
  have digits : (ofInt n).wholeSignificand = ⟨n.natAbs, 0, true⟩ := by
    have spelt := ofDecimal_decimal n.natAbs
    rw [wholeSignificand, ofInt, foldl_whole (by rw [← ofDecimal, spelt]; exact fits),
      ← ofDecimal, spelt]
  have all : (ofInt n).significand = ⟨n.natAbs, 0, true⟩ := by
    rw [significand, digits]
    rfl
  have whole : (ofInt n).isWhole = true := by
    rw [isWhole, digits]
    rfl
  rw [number?, all, whole]
  by_cases negative : n < 0
  · have sign : (ofInt n).negative = true := decide_eq_true negative
    have small : 0 < n.natAbs ∧ n.natAbs ≤ 0x8000000000000000 := by omega
    rw [sign, if_neg (by simp), if_pos ⟨rfl, small⟩]
    simp only [Option.some_inj, Number.whole.injEq]
    omega
  · have sign : (ofInt n).negative = false := decide_eq_false negative
    rw [sign, if_pos (by simp)]
    simp only [Option.some_inj, Number.whole.injEq]
    omega

/-- What may follow a document: nothing, a comma or a closing bracket. -/
def Closes (rest : Bytes) : Prop := ∀ b ∈ rest.head?, b = 0x2C ∨ b = 0x5D ∨ b = 0x7D

/-- No digit follows. -/
def NoDigit (rest : Bytes) : Prop := ∀ b ∈ rest.head?, isDigit b = false

theorem Closes.noDigit {rest : Bytes} (h : Closes rest) : NoDigit rest := by
  intro b hb
  obtain rfl | rfl | rfl := h b hb <;> rfl

theorem isDigit_ofNat {d : Nat} (h : d < 10) : isDigit (UInt8.ofNat (0x30 + d)) = true := by
  interval_cases d <;> rfl

theorem digitValue_ofNat {d : Nat} (h : d < 10) : digitValue (UInt8.ofNat (0x30 + d)) = d := by
  interval_cases d <;> rfl

theorem readDigits_written {ds : List Nat} (h : ∀ d ∈ ds, d < 10) {rest : Bytes}
    (hr : NoDigit rest) : readDigits (writtenDigits ds ++ rest) = (ds, rest) := by
  have digits : ∀ b ∈ writtenDigits ds, isDigit b = true := by
    intro b hb
    obtain ⟨d, hd, rfl⟩ := List.mem_map.1 hb
    exact isDigit_ofNat (h d hd)
  have none : rest.takeWhile isDigit = [] ∧ rest.dropWhile isDigit = rest := by
    cases rest with
    | nil => exact ⟨rfl, rfl⟩
    | cons b bs =>
      have hb := hr b rfl
      exact ⟨by rw [List.takeWhile_cons, hb]; rfl, by rw [List.dropWhile_cons, hb]; rfl⟩
  rw [readDigits, List.takeWhile_append_of_pos digits, List.dropWhile_append_of_pos digits, none.1,
    none.2, List.append_nil, writtenDigits, List.map_map]
  refine Prod.ext ?_ rfl
  exact (List.map_congr_left fun d hd => digitValue_ofNat (h d hd)).trans (List.map_id ds)

theorem readSomeDigits_written {ds : List Nat} (some : ds ≠ []) (h : ∀ d ∈ ds, d < 10)
    {rest : Bytes} (hr : NoDigit rest) :
    readSomeDigits (writtenDigits ds ++ rest) = .ok (ds, rest) := by
  rw [readSomeDigits, readDigits_written h hr]
  cases ds with
  | nil => exact absurd rfl some
  | cons d ds => rfl

theorem readWhole_written {ds : List Nat} (some : ds ≠ []) (zero : ds.head? = .some 0 → ds = [0])
    (h : ∀ d ∈ ds, d < 10) {rest : Bytes} (hr : NoDigit rest) :
    readWhole (writtenDigits ds ++ rest) = .ok (ds, rest) := by
  rw [readWhole, readSomeDigits_written some h hr]
  match ds, zero with
  | [], _ => exact absurd rfl some
  | [d], _ => cases d <;> rfl
  | 0 :: _ :: _, zero => cases zero rfl
  | (d + 1) :: _ :: _, _ => rfl

namespace Numeral

variable {n : Numeral} {rest : Bytes}

/-- Reads an exponent after its letter and its sign. -/
theorem readExponent_unsigned {d : Nat} (h : d < 10) (bs : Bytes) :
    readExponent (0x65 :: UInt8.ofNat (0x30 + d) :: bs) =
      (readSomeDigits (UInt8.ofNat (0x30 + d) :: bs)).map
        fun r => (some ((ofDecimal r.1 : Nat) : Int), r.2) := by
  interval_cases d <;> rfl

theorem readExponent_signed (bs : Bytes) :
    readExponent (0x65 :: 0x2D :: bs) =
      (readSomeDigits bs).map fun r => (some (-(ofDecimal r.1 : Nat) : Int), r.2) := rfl

theorem readExponent_written (n : Numeral) (hr : Closes rest) :
    readExponent (n.writtenExponent ++ rest) = .ok (n.exponent, rest) := by
  rw [writtenExponent]
  cases n.exponent with
  | none =>
    cases rest with
    | nil => rfl
    | cons b bs => obtain rfl | rfl | rfl := hr b rfl <;> rfl
  | some e =>
    have digits := readSomeDigits_written (decimal_ne_nil e.natAbs)
      (fun d => lt_ten_of_mem_decimal) hr.noDigit
    dsimp only
    split_ifs with negative
    · rw [List.cons_append, List.append_assoc, List.singleton_append, readExponent_signed, digits,
        Except.map, ofDecimal_decimal]
      dsimp only
      rw [show (-(e.natAbs : Int)) = e by omega]
    · cases hd : decimal e.natAbs with
      | nil => exact absurd hd (decimal_ne_nil _)
      | cons d ds =>
        have first : d < 10 := lt_ten_of_mem_decimal (hd ▸ List.mem_cons_self ..)
        have spelt := ofDecimal_decimal e.natAbs
        rw [hd] at digits spelt
        rw [writtenDigits, List.map_cons] at digits ⊢
        rw [List.nil_append, List.cons_append, List.cons_append, readExponent_unsigned first,
          ← List.cons_append, digits, Except.map]
        dsimp only
        rw [spelt, show (e.natAbs : Int) = e by omega]

theorem readFraction_of_no_point {bs : Bytes} (h : bs.head? ≠ some 0x2E) :
    readFraction bs = .ok ([], bs) := by
  rw [readFraction]
  rintro bs rfl
  exact h rfl

/-- What follows the digits before the exponent. -/
theorem head?_writtenExponent (n : Numeral) (hr : Closes rest) {b : UInt8}
    (hb : b ∈ (n.writtenExponent ++ rest).head?) : b = 0x65 ∨ b = 0x2C ∨ b = 0x5D ∨ b = 0x7D := by
  rw [writtenExponent] at hb
  cases he : n.exponent with
  | none =>
    rw [he] at hb
    exact .inr (hr b hb)
  | some e =>
    rw [he] at hb
    exact .inl (Option.some.inj hb).symm

theorem readFraction_written (h : ∀ d ∈ n.fraction, d < 10) (hr : Closes rest) :
    readFraction (n.writtenFraction ++ (n.writtenExponent ++ rest)) =
      .ok (n.fraction, n.writtenExponent ++ rest) := by
  rw [writtenFraction]
  cases hf : n.fraction with
  | nil =>
    refine readFraction_of_no_point fun point => ?_
    have := head?_writtenExponent n hr point
    revert this
    decide
  | cons d ds =>
    rw [hf] at h
    refine readSomeDigits_written (List.cons_ne_nil d ds) h fun b hb => ?_
    obtain rfl | rfl | rfl | rfl := head?_writtenExponent n hr hb <;> rfl

/-- A number is read back after its sign. -/
theorem readNumeral_written (h : n.isSpelt) (hr : Closes rest) :
    readNumeral n.negative (n.writtenUnsigned ++ rest) = .ok (n, rest) := by
  simp only [isSpelt, Bool.and_eq_true, Bool.not_eq_true', List.isEmpty_eq_false_iff,
    List.all_eq_true, decide_eq_true_eq, Bool.or_eq_true, bne_iff_ne, beq_iff_eq] at h
  obtain ⟨⟨⟨some, zero⟩, whole⟩, fraction⟩ := h
  have alone : n.whole.head? = .some 0 → n.whole = [0] := fun first =>
    zero.resolve_left fun other => other first
  have follows : NoDigit (n.writtenFraction ++ (n.writtenExponent ++ rest)) := by
    intro b hb
    rw [writtenFraction] at hb
    split_ifs at hb
    · obtain rfl | rfl | rfl | rfl := head?_writtenExponent n hr hb <;> rfl
    · cases hb
      rfl
  have hw := readWhole_written some alone whole follows
  have hf := readFraction_written fraction hr
  have he := readExponent_written n hr
  rw [readNumeral, writtenUnsigned, List.append_assoc, List.append_assoc, hw]
  simp only [bind, Except.bind, hf, he]
  rfl

theorem written_unsigned (h : n.isSpelt) :
    ∃ d bs, d < 10 ∧ n.writtenUnsigned = UInt8.ofNat (0x30 + d) :: bs := by
  rw [writtenUnsigned]
  cases hw : n.whole with
  | nil => simp [isSpelt, hw] at h
  | cons d ds =>
    have small : d < 10 := by
      simp only [isSpelt, hw, Bool.and_eq_true, List.all_cons, decide_eq_true_eq] at h
      exact h.1.2.1
    exact ⟨d, _, small, rfl⟩

end Numeral

/-! ## Documents -/

mutual

/-- A document without a break, as texts that are documents show it. -/
def Doc.isWhole : Doc → Bool
  | .null | .bool _ => true
  | .number n => n.isSpelt
  | .text s => s.isOk
  | .array ds stop => stop.isNone && areWholeItems ds
  | .object ms stop => stop.isNone && areWholeMembers ms
  | .broken _ _ => false
termination_by structural d => d

def areWholeItems : List Doc → Bool
  | [] => true
  | d :: ds => d.isWhole && areWholeItems ds
termination_by structural ds => ds

def areWholeMembers : List Member → Bool
  | [] => true
  | m :: ms => m.isWhole && areWholeMembers ms
termination_by structural ms => ms

def Member.isWhole : Member → Bool
  | .named name d => name.isOk && d.isWhole
  | .misnamed _ _ => false
termination_by structural m => m

end

/-- The bytes of a text, if its content is in order. -/
def writtenLiteral : Literal → Bytes
  | .ok s => writtenText s
  | .error _ => []

mutual

/-- The text of a document without blanks. -/
def Doc.written : Doc → Bytes
  | .null => Utf8.encode "null"
  | .bool true => Utf8.encode "true"
  | .bool false => Utf8.encode "false"
  | .number n => n.written
  | .text s => writtenLiteral s
  | .array [] _ => [0x5B, 0x5D]
  | .array (d :: ds) _ => 0x5B :: (d.written ++ writtenItems ds)
  | .object [] _ => [0x7B, 0x7D]
  | .object (m :: ms) _ => 0x7B :: (m.written ++ writtenMembers ms)
  | .broken _ _ => []
termination_by structural d => d

/-- The items of an array that follow another, and its closing bracket. -/
def writtenItems : List Doc → Bytes
  | [] => [0x5D]
  | d :: ds => 0x2C :: (d.written ++ writtenItems ds)
termination_by structural ds => ds

/-- The members of an object that follow another, and its closing bracket. -/
def writtenMembers : List Member → Bytes
  | [] => [0x7D]
  | m :: ms => 0x2C :: (m.written ++ writtenMembers ms)
termination_by structural ms => ms

def Member.written : Member → Bytes
  | .named name d => writtenLiteral name ++ 0x3A :: d.written
  | .misnamed _ _ => []
termination_by structural m => m

end

theorem skipBlanks_cons {b : UInt8} (h : isBlank b = false) (bs : Bytes) :
    skipBlanks (b :: bs) = b :: bs := by
  rw [skipBlanks, List.dropWhile_cons, h]
  rfl

/-- The document is read back from its text, whatever follows, in two steps for each byte. What is
written starts neither with a blank nor with the end of an array. -/
structure Doc.Reads (d : Doc) : Prop where
  starts : ∃ b bs, d.written = b :: bs ∧ isBlank b = false ∧ b ≠ 0x5D
  reads : ∀ (fuel : Nat) {rest : Bytes}, 2 * d.written.length ≤ fuel → Closes rest →
    readWithin fuel (d.written ++ rest) = (d, some rest)

/-- The member is read back from its text. -/
def Member.Reads (m : Member) : Prop := ∃ name d, m = .named (.ok name) d ∧ d.Reads

/-! ### What is read in one step -/

/-- How an array goes on behind its bracket. -/
def inArray (fuel : Nat) : Bytes → Doc × Rest
  | 0x5D :: bs => (.array [] none, some bs)
  | [] => (.array [] (some (.of (.endsEarly .list))), none)
  | bs =>
    let (items, stop, rest) := readItems fuel bs
    (.array items stop, rest)

theorem readWithin_bracket (fuel : Nat) (bs : Bytes) :
    readWithin (fuel + 1) (0x5B :: bs) = inArray fuel (skipBlanks bs) := rfl

theorem readWithin_array {b : UInt8} (blank : isBlank b = false) (item : b ≠ 0x5D) (fuel : Nat)
    (bs : Bytes) : readWithin (fuel + 1) (0x5B :: b :: bs) =
      (.array (readItems fuel (b :: bs)).1 (readItems fuel (b :: bs)).2.1,
        (readItems fuel (b :: bs)).2.2) := by
  rw [readWithin_bracket, skipBlanks_cons blank, inArray]
  · simp [item]
  · simp

theorem readWithin_object (fuel : Nat) (bs : Bytes) : readWithin (fuel + 1) (0x7B :: 0x22 :: bs) =
    (.object (readMembers fuel (0x22 :: bs)).1 (readMembers fuel (0x22 :: bs)).2.1,
      (readMembers fuel (0x22 :: bs)).2.2) := rfl

theorem readWithin_text (fuel : Nat) (s : String) (rest : Bytes) :
    readWithin (fuel + 1) (writtenText s ++ rest) = (.text (.ok s), some rest) := by
  rw [writtenText_eq, List.cons_append, List.append_assoc, List.singleton_append]
  change ofRead .text .text (readLiteral (spelling s.toList ++ 0x22 :: rest)) = _
  rw [readLiteral_spelling]
  rfl

theorem readWithin_digit {d : Nat} (h : d < 10) (fuel : Nat) (bs : Bytes) :
    readWithin (fuel + 1) (UInt8.ofNat (0x30 + d) :: bs) =
      ofRead .other .number (readNumeral false (UInt8.ofNat (0x30 + d) :: bs)) := by
  interval_cases d <;> rfl

theorem readWithin_number {n : Numeral} (h : n.isSpelt) (fuel : Nat) {rest : Bytes}
    (hr : Closes rest) : readWithin (fuel + 1) (n.written ++ rest) = (.number n, some rest) := by
  have numeral := Numeral.readNumeral_written h hr
  cases sign : n.negative with
  | true =>
    rw [sign] at numeral
    rw [Numeral.written, if_pos sign, List.singleton_append, List.cons_append]
    change ofRead .other .number (readNumeral true (n.writtenUnsigned ++ rest)) = _
    rw [numeral]
    rfl
  | false =>
    obtain ⟨d, bs, small, first⟩ := Numeral.written_unsigned h
    rw [sign] at numeral
    rw [Numeral.written, if_neg (Bool.eq_false_iff.1 sign), List.nil_append]
    rw [first, List.cons_append] at numeral ⊢
    rw [readWithin_digit small, numeral]
    rfl

/-- How an array goes on behind a comma that follows an item. -/
def behindItem (fuel : Nat) (d : Doc) : Bytes → List Doc × Option Break × Rest
  | 0x5D :: _ => ([d], some (.of (.malformed .comma)), none)
  | rest =>
    let (ds, stop, rest) := readItems fuel rest
    (d :: ds, stop, rest)

/-- The last item, and one that another follows. -/
theorem readItems_last {fuel : Nat} {d : Doc} {bs rest : Bytes}
    (hd : readWithin fuel bs = (d, some (0x5D :: rest))) :
    readItems (fuel + 1) bs = ([d], none, some rest) := by
  rw [readItems, hd]
  rfl

theorem readItems_comma {fuel : Nat} {d : Doc} {b : UInt8} {bs rest : Bytes}
    (blank : isBlank b = false) (item : b ≠ 0x5D)
    (hd : readWithin fuel bs = (d, some (0x2C :: b :: rest))) :
    readItems (fuel + 1) bs = (d :: (readItems fuel (b :: rest)).1,
      (readItems fuel (b :: rest)).2.1, (readItems fuel (b :: rest)).2.2) := by
  rw [readItems, hd]
  change behindItem fuel d (skipBlanks (b :: rest)) = _
  rw [skipBlanks_cons blank, behindItem]
  simp [item]

/-- How an object goes on behind the document of a member. -/
def behindMember (fuel : Nat) (name : Literal) : Doc × Rest → List Member × Option Break × Rest
  | (d, none) => ([.named name d], some hidden, none)
  | (d, some rest) =>
    match skipBlanks rest with
    | 0x7D :: rest => ([.named name d], none, some rest)
    | 0x2C :: rest =>
      let (ms, stop, rest) := readMembers fuel rest
      (.named name d :: ms, stop, rest)
    | rest => ([.named name d], some (.of (faultAt .object .memberEnd rest)), none)

/-- How an object goes on behind the name of a member. -/
def behindName (fuel : Nat) :
    Except Break (Literal × Bytes) → List Member × Option Break × Rest
  | .error stop => ([.misnamed (.broken .text stop) stop], none, none)
  | .ok (name, rest) =>
    match skipBlanks rest with
    | 0x3A :: rest => behindMember fuel name (readWithin fuel rest)
    | rest => ([.named name (missingColon rest)], some hidden, none)

/-- The next member up to the document behind its name. -/
theorem readMembers_named (fuel : Nat) (name : String) (bs : Bytes) :
    readMembers (fuel + 1) (writtenText name ++ 0x3A :: bs) =
      behindMember fuel (.ok name) (readWithin fuel bs) := by
  rw [writtenText_eq, List.cons_append, List.append_assoc, List.singleton_append]
  change behindName fuel (readLiteral (spelling name.toList ++ 0x22 :: 0x3A :: bs)) = _
  rw [readLiteral_spelling]
  rfl

/-- The last member, and one that another follows. -/
theorem readMembers_last {fuel : Nat} {name : String} {d : Doc} {bs rest : Bytes}
    (hd : readWithin fuel bs = (d, some (0x7D :: rest))) :
    readMembers (fuel + 1) (writtenText name ++ 0x3A :: bs) =
      ([.named (.ok name) d], none, some rest) := by
  rw [readMembers_named, hd]
  rfl

theorem readMembers_comma {fuel : Nat} {name : String} {d : Doc} {bs rest : Bytes}
    (hd : readWithin fuel bs = (d, some (0x2C :: rest))) :
    readMembers (fuel + 1) (writtenText name ++ 0x3A :: bs) =
      (.named (.ok name) d :: (readMembers fuel rest).1, (readMembers fuel rest).2.1,
        (readMembers fuel rest).2.2) := by
  rw [readMembers_named, hd]
  rfl

/-! ### Whole documents -/

theorem closes_writtenItems (ds : List Doc) (rest : Bytes) : Closes (writtenItems ds ++ rest) := by
  cases ds <;> rintro b ⟨⟩ <;> decide

theorem closes_writtenMembers (ms : List Member) (rest : Bytes) :
    Closes (writtenMembers ms ++ rest) := by
  cases ms <;> rintro b ⟨⟩ <;> decide

/-- The items of an array are read back, by induction on those that follow the first. -/
theorem readItems_written {d : Doc} {ds : List Doc} (hd : d.Reads) (h : ∀ d ∈ ds, d.Reads)
    (fuel : Nat) (rest : Bytes) (enough : 2 * (d.written ++ writtenItems ds).length ≤ fuel + 1) :
    readItems (fuel + 1) (d.written ++ (writtenItems ds ++ rest)) = (d :: ds, none, some rest) := by
  induction ds generalizing d fuel with
  | nil =>
    simp only [writtenItems, List.length_append, List.length_singleton] at enough
    exact readItems_last (hd.reads fuel (by omega) (closes_writtenItems [] rest))
  | cons d' ds ih =>
    obtain ⟨hd', others⟩ := List.forall_mem_cons.1 h
    obtain ⟨b, bs, first, blank, item⟩ := hd'.starts
    simp only [writtenItems, List.length_append, List.length_cons] at enough
    obtain ⟨fuel, rfl⟩ : ∃ n, fuel = n + 1 := ⟨fuel - 1, by omega⟩
    have read := hd.reads (fuel + 1) (by omega) (closes_writtenItems (d' :: ds) rest)
    have more := ih hd' others fuel (by rw [List.length_append]; omega)
    rw [writtenItems, List.cons_append, List.append_assoc] at read ⊢
    rw [first, List.cons_append] at read more ⊢
    rw [readItems_comma blank item read, more]

/-- The members of an object are read back, by induction on those that follow the first. -/
theorem readMembers_written {m : Member} {ms : List Member} (hm : m.Reads) (h : ∀ m ∈ ms, m.Reads)
    (fuel : Nat) (rest : Bytes) (enough : 2 * (m.written ++ writtenMembers ms).length ≤ fuel + 1) :
    readMembers (fuel + 1) (m.written ++ (writtenMembers ms ++ rest)) =
      (m :: ms, none, some rest) := by
  induction ms generalizing m fuel with
  | nil =>
    obtain ⟨name, d, rfl, hd⟩ := hm
    simp only [Member.written, writtenMembers, List.length_append, List.length_cons] at enough
    have read := hd.reads fuel (by omega) (closes_writtenMembers [] rest)
    rw [Member.written, writtenLiteral, List.append_assoc, List.cons_append]
    exact readMembers_last read
  | cons m' ms ih =>
    obtain ⟨hm', others⟩ := List.forall_mem_cons.1 h
    obtain ⟨name, d, rfl, hd⟩ := hm
    simp only [Member.written, writtenMembers, List.length_append, List.length_cons] at enough
    obtain ⟨fuel, rfl⟩ : ∃ n, fuel = n + 1 := ⟨fuel - 1, by omega⟩
    have read := hd.reads (fuel + 1) (by omega) (closes_writtenMembers (m' :: ms) rest)
    have more := ih hm' others fuel (by rw [List.length_append]; omega)
    rw [writtenMembers, List.cons_append, List.append_assoc] at read ⊢
    rw [Member.written, writtenLiteral, List.append_assoc, List.cons_append,
      readMembers_comma read, more]

/-- A document that is read in one step. -/
theorem Doc.Reads.of_step {d : Doc} {b : UInt8} {bs : Bytes} (first : d.written = b :: bs)
    (blank : isBlank b = false) (item : b ≠ 0x5D)
    (h : ∀ fuel {rest : Bytes}, Closes rest →
      readWithin (fuel + 1) (d.written ++ rest) = (d, some rest)) : d.Reads where
  starts := ⟨b, bs, first, blank, item⟩
  reads fuel rest enough closes := by
    rw [first, List.length_cons] at enough
    obtain ⟨fuel, rfl⟩ : ∃ n, fuel = n + 1 := ⟨fuel - 1, by omega⟩
    exact h fuel closes

theorem reads_array {ds : List Doc} (h : ∀ d ∈ ds, d.Reads) : (Doc.array ds none).Reads := by
  cases ds with
  | nil =>
    exact .of_step rfl (by decide) (by decide) fun _ _ _ => rfl
  | cons d ds =>
    obtain ⟨hd, others⟩ := List.forall_mem_cons.1 h
    obtain ⟨b, bs, first, blank, item⟩ := hd.starts
    refine ⟨⟨_, _, rfl, by decide, by decide⟩, fun fuel rest enough _ => ?_⟩
    simp only [Doc.written, List.length_cons] at enough
    obtain ⟨fuel, rfl⟩ : ∃ n, fuel = n + 1 + 1 := ⟨fuel - 2, by omega⟩
    have items := readItems_written hd others fuel rest (by omega)
    rw [Doc.written, List.cons_append, List.append_assoc]
    rw [first, List.cons_append] at items ⊢
    rw [readWithin_array blank item, items]

theorem reads_object {ms : List Member} (h : ∀ m ∈ ms, m.Reads) : (Doc.object ms none).Reads := by
  cases ms with
  | nil =>
    exact .of_step rfl (by decide) (by decide) fun _ _ _ => rfl
  | cons m ms =>
    obtain ⟨hm, others⟩ := List.forall_mem_cons.1 h
    refine ⟨⟨_, _, rfl, by decide, by decide⟩, fun fuel rest enough _ => ?_⟩
    simp only [Doc.written, List.length_cons] at enough
    obtain ⟨fuel, rfl⟩ : ∃ n, fuel = n + 1 + 1 := ⟨fuel - 2, by omega⟩
    have members := readMembers_written hm others fuel rest (by omega)
    obtain ⟨name, d, rfl, -⟩ := hm
    rw [Doc.written, List.cons_append, List.append_assoc]
    rw [Member.written, writtenLiteral, writtenText_eq, List.append_assoc, List.cons_append]
      at members ⊢
    rw [readWithin_object, members]

theorem reads_number {n : Numeral} (h : n.isSpelt) : (Doc.number n).Reads := by
  have read : ∀ fuel {rest : Bytes}, Closes rest →
      readWithin (fuel + 1) (n.written ++ rest) = (.number n, some rest) :=
    fun fuel _ closes => readWithin_number h fuel closes
  obtain ⟨d, bs, small, digits⟩ := n.written_unsigned h
  cases sign : n.negative with
  | true =>
    have first : (Doc.number n).written = 0x2D :: n.writtenUnsigned := by
      rw [Doc.written, Numeral.written, if_pos sign, List.singleton_append]
    exact .of_step first (by decide) (by decide) read
  | false =>
    have first : (Doc.number n).written = UInt8.ofNat (0x30 + d) :: bs := by
      rw [Doc.written, Numeral.written, if_neg (Bool.eq_false_iff.1 sign), List.nil_append, digits]
    refine .of_step first ?_ ?_ read
    · interval_cases d <;> rfl
    · interval_cases d <;> decide

theorem reads_text (s : String) : (Doc.text (.ok s)).Reads :=
  .of_step (writtenText_eq s) (by decide) (by decide) fun fuel rest _ => readWithin_text fuel s rest

theorem Doc.isWhole_text {s : Literal} (h : (Doc.text s).isWhole) : ∃ t, s = .ok t := by
  cases s with
  | error fault => cases h
  | ok t => exact ⟨t, rfl⟩

theorem Doc.isWhole_array {ds : List Doc} {stop : Option Break} (h : (Doc.array ds stop).isWhole) :
    stop = none ∧ areWholeItems ds := by
  rwa [Doc.isWhole, Bool.and_eq_true, Option.isNone_iff_eq_none] at h

theorem Doc.isWhole_object {ms : List Member} {stop : Option Break}
    (h : (Doc.object ms stop).isWhole) : stop = none ∧ areWholeMembers ms := by
  rwa [Doc.isWhole, Bool.and_eq_true, Option.isNone_iff_eq_none] at h

theorem Member.isWhole_named {name : Literal} {d : Doc} (h : (Member.named name d).isWhole) :
    (∃ s, name = .ok s) ∧ d.isWhole := by
  cases name with
  | error fault => cases h
  | ok s => exact ⟨⟨s, rfl⟩, h⟩

mutual

theorem Doc.reads_of_isWhole : (d : Doc) → d.isWhole → d.Reads
  | .null, _ => .of_step rfl (by decide) (by decide) fun _ _ _ => rfl
  | .bool true, _ => .of_step rfl (by decide) (by decide) fun _ _ _ => rfl
  | .bool false, _ => .of_step rfl (by decide) (by decide) fun _ _ _ => rfl
  | .number _, h => reads_number h
  | .text _, h => by
    obtain ⟨s, rfl⟩ := Doc.isWhole_text h
    exact reads_text s
  | .array ds _, h => by
    obtain ⟨rfl, items⟩ := Doc.isWhole_array h
    exact reads_array (reads_of_areWholeItems ds items)
  | .object ms _, h => by
    obtain ⟨rfl, members⟩ := Doc.isWhole_object h
    exact reads_object (reads_of_areWholeMembers ms members)
  | .broken _ _, h => nomatch h

theorem reads_of_areWholeItems : (ds : List Doc) → areWholeItems ds → ∀ d ∈ ds, d.Reads
  | [], _ => nofun
  | d :: ds, h => by
    obtain ⟨first, others⟩ := Bool.and_eq_true_iff.1 h
    exact List.forall_mem_cons.2 ⟨d.reads_of_isWhole first, reads_of_areWholeItems ds others⟩

theorem reads_of_areWholeMembers : (ms : List Member) → areWholeMembers ms → ∀ m ∈ ms, m.Reads
  | [], _ => nofun
  | m :: ms, h => by
    obtain ⟨first, others⟩ := Bool.and_eq_true_iff.1 h
    exact List.forall_mem_cons.2 ⟨m.reads_of_isWhole first, reads_of_areWholeMembers ms others⟩

theorem Member.reads_of_isWhole : (m : Member) → m.isWhole → m.Reads
  | .named _ d, h => by
    obtain ⟨⟨s, rfl⟩, whole⟩ := Member.isWhole_named h
    exact ⟨s, d, rfl, d.reads_of_isWhole whole⟩
  | .misnamed _ _, h => nomatch h

end

/-- A whole document is read back from its text, and nothing follows it. -/
theorem readDoc_written {d : Doc} (h : d.isWhole) : readDoc d.written = (d, false) := by
  have closes : Closes [] := nofun
  have read := (d.reads_of_isWhole h).reads (2 * d.written.length + 2) (by omega) closes
  rw [List.append_nil] at read
  rw [readDoc, read]
  rfl

mutual

/-- Whole documents can be passed over. -/
theorem Doc.passOver_of_isWhole : (d : Doc) → d.isWhole → d.passOver = .ok ()
  | .null, _ | .bool _, _ | .number _, _ | .text _, _ => rfl
  | .array ds _, h => by
    obtain ⟨rfl, items⟩ := Doc.isWhole_array h
    rw [Doc.passOver, passOver_of_areWholeItems ds items]
    rfl
  | .object ms _, h => by
    obtain ⟨rfl, members⟩ := Doc.isWhole_object h
    rw [Doc.passOver, passOver_of_areWholeMembers ms members]
    rfl
  | .broken _ _, h => nomatch h

theorem passOver_of_areWholeItems : (ds : List Doc) → areWholeItems ds → passOverItems ds = .ok ()
  | [], _ => rfl
  | d :: ds, h => by
    obtain ⟨first, others⟩ := Bool.and_eq_true_iff.1 h
    rw [passOverItems, d.passOver_of_isWhole first]
    exact passOver_of_areWholeItems ds others

theorem passOver_of_areWholeMembers :
    (ms : List Member) → areWholeMembers ms → passOverMembers ms = .ok ()
  | [], _ => rfl
  | m :: ms, h => by
    obtain ⟨first, others⟩ := Bool.and_eq_true_iff.1 h
    rw [passOverMembers, m.passOver_of_isWhole first]
    exact passOver_of_areWholeMembers ms others

theorem Member.passOver_of_isWhole : (m : Member) → m.isWhole → m.passOver = .ok ()
  | .named _ d, h => d.passOver_of_isWhole (Member.isWhole_named h).2
  | .misnamed _ _, h => nomatch h

end

end KvBridge.Json
