import KvBridge.Text.Utf8
import Mathlib.Tactic.IntervalCases

/-!
# A text is read back from its bytes

Every character is one piece of the bytes that spell it: its first byte announces how many follow,
and those that follow lie in the ranges that it announces (`piece_encodeChar`). So the bytes of a
text are read back as that text (`decode?_encode`), whatever characters it holds.
-/

namespace KvBridge.Utf8

/-! ## First bytes -/

theorem lead?_two {x : Nat} (low : 2 ≤ x) (high : x < 32) :
    lead? (UInt8.ofNat (x + 0xC0)) = some ⟨1, 0x80, 0xBF, x⟩ := by
  interval_cases x <;> rfl

/-- The first of three bytes. Its range leaves out what two bytes spell, and the surrogates. -/
theorem lead?_three {x : Nat} (high : x < 16) :
    lead? (UInt8.ofNat (x + 0xE0)) =
      some ⟨2, if x = 0 then 0xA0 else 0x80, if x = 13 then 0x9F else 0xBF, x⟩ := by
  interval_cases x <;> rfl

/-- The first of four bytes. Its range leaves out what three bytes spell, and what lies beyond the
last code point. -/
theorem lead?_four {x : Nat} (high : x < 5) :
    lead? (UInt8.ofNat (x + 0xF0)) =
      some ⟨3, if x = 0 then 0x90 else 0x80, if x = 4 then 0x8F else 0xBF, x⟩ := by
  interval_cases x <;> rfl

/-! ## Pieces -/

/-- A byte in its range continues a character with six bits. -/
theorem continuation_ofNat {n bits x : Nat} {low high : UInt8} {bs : Bytes} (hx : x < 64)
    (hlow : low.toNat ≤ x + 0x80) (hhigh : x + 0x80 ≤ high.toNat) :
    continuation (n + 1) low high bits (UInt8.ofNat (x + 0x80) :: bs) =
      continuation n 0x80 0xBF (bits * 64 + x) bs := by
  have hb : (UInt8.ofNat (x + 0x80)).toNat = x + 0x80 :=
    UInt8.toNat_ofNat_of_lt' (Nat.lt_of_lt_of_le (Nat.add_lt_add_right hx _) (by decide))
  rw [continuation, if_pos ⟨UInt8.le_iff_toNat_le.2 (hb.symm ▸ hlow),
    UInt8.le_iff_toNat_le.2 (hb.symm ▸ hhigh)⟩, hb, Nat.add_sub_cancel]

theorem continuation_tail {n bits x : Nat} {bs : Bytes} (hx : x < 64) :
    continuation (n + 1) 0x80 0xBF bits (UInt8.ofNat (x + 0x80) :: bs) =
      continuation n 0x80 0xBF (bits * 64 + x) bs :=
  continuation_ofNat hx (Nat.le_add_left ..) (Nat.add_le_add_right (Nat.le_of_lt_succ hx) 0x80)

theorem piece_of_lead {b : UInt8} {l : Lead} {bs rest : Bytes} {code : Nat} (hl : lead? b = some l)
    (hb : 0x80 ≤ b) (hc : continuation l.follow l.low l.high l.bits bs = (some code, rest)) :
    piece b bs = (some (Char.ofNat code), rest) := by
  rw [piece, if_neg (UInt8.not_lt.2 hb), hl]
  simp only [hc, Option.map_some]

theorem piece_two {x y : Nat} (low : 2 ≤ x) (high : x < 32) (hy : y < 64) (rest : Bytes) :
    piece (UInt8.ofNat (x + 0xC0)) (UInt8.ofNat (y + 0x80) :: rest) =
      (some (Char.ofNat (x * 64 + y)), rest) := by
  refine piece_of_lead (lead?_two low high) ?_ ?_
  · interval_cases x <;> decide
  · rw [continuation_tail hy]
    rfl

theorem piece_three {x y z : Nat} (high : x < 16) (hy : y < 64) (hz : z < 64)
    (low : x = 0 → 32 ≤ y) (surrogates : x = 13 → y < 32) (rest : Bytes) :
    piece (UInt8.ofNat (x + 0xE0)) (UInt8.ofNat (y + 0x80) :: UInt8.ofNat (z + 0x80) :: rest) =
      (some (Char.ofNat ((x * 64 + y) * 64 + z)), rest) := by
  refine piece_of_lead (lead?_three high) ?_ ?_
  · interval_cases x <;> decide
  · have hlow : (if x = 0 then 0xA0 else 0x80 : UInt8).toNat ≤ y + 0x80 := by
      split
      · exact Nat.add_le_add_right (low ‹_›) 0x80
      · exact Nat.le_add_left ..
    have hhigh : y + 0x80 ≤ (if x = 13 then 0x9F else 0xBF : UInt8).toNat := by
      split
      · exact Nat.add_le_add_right (Nat.le_of_lt_succ (surrogates ‹_›)) 0x80
      · exact Nat.add_le_add_right (Nat.le_of_lt_succ hy) 0x80
    rw [continuation_ofNat hy hlow hhigh, continuation_tail hz]
    rfl

theorem piece_four {x y z w : Nat} (high : x < 5) (hy : y < 64) (hz : z < 64) (hw : w < 64)
    (low : x = 0 → 16 ≤ y) (last : x = 4 → y < 16) (rest : Bytes) :
    piece (UInt8.ofNat (x + 0xF0)) (UInt8.ofNat (y + 0x80) :: UInt8.ofNat (z + 0x80) ::
        UInt8.ofNat (w + 0x80) :: rest) =
      (some (Char.ofNat (((x * 64 + y) * 64 + z) * 64 + w)), rest) := by
  refine piece_of_lead (lead?_four high) ?_ ?_
  · interval_cases x <;> decide
  · have hlow : (if x = 0 then 0x90 else 0x80 : UInt8).toNat ≤ y + 0x80 := by
      split
      · exact Nat.add_le_add_right (low ‹_›) 0x80
      · exact Nat.le_add_left ..
    have hhigh : y + 0x80 ≤ (if x = 4 then 0x8F else 0xBF : UInt8).toNat := by
      split
      · exact Nat.add_le_add_right (Nat.le_of_lt_succ (last ‹_›)) 0x80
      · exact Nat.add_le_add_right (Nat.le_of_lt_succ hy) 0x80
    rw [continuation_ofNat hy hlow hhigh, continuation_tail hz, continuation_tail hw]
    rfl

/-- The bytes of a character are one piece. -/
theorem piece_encodeChar (c : Char) (rest : Bytes) :
    ∃ b bs, String.utf8EncodeChar c = b :: bs ∧ piece b (bs ++ rest) = (some c, rest) := by
  have valid : c.val.toNat < 0xD800 ∨ 0xDFFF < c.val.toNat ∧ c.val.toNat < 0x110000 := c.valid
  have whole : Char.ofNat c.val.toNat = c := Char.ofNat_toNat c
  rw [String.utf8EncodeChar]
  generalize c.val.toNat = v at valid whole
  split_ifs with one two three
  · have hb : (UInt8.ofNat v).toNat = v :=
      UInt8.toNat_ofNat_of_lt' (Nat.lt_of_le_of_lt one (by decide))
    refine ⟨_, _, rfl, ?_⟩
    rw [piece, if_pos (UInt8.lt_iff_toNat_lt.2 (hb.symm ▸ Nat.lt_succ_of_le one)), hb, whole]
    rfl
  · refine ⟨_, _, rfl, (piece_two ?_ ?_ ?_ rest).trans ?_⟩
    any_goals omega
    rw [← whole, show v / 64 % 32 * 64 + v % 64 = v by omega]
  · refine ⟨_, _, rfl, (piece_three ?_ ?_ ?_ ?_ ?_ rest).trans ?_⟩
    any_goals omega
    rw [← whole, show (v / 4096 % 16 * 64 + v / 64 % 64) * 64 + v % 64 = v by omega]
  · refine ⟨_, _, rfl, (piece_four ?_ ?_ ?_ ?_ ?_ ?_ rest).trans ?_⟩
    any_goals omega
    rw [← whole, show ((v / 262144 % 8 * 64 + v / 4096 % 64) * 64 + v / 64 % 64) * 64 + v % 64 = v
      by omega]

/-! ## Texts -/

/-- The pieces of the bytes of a text are its characters. -/
theorem piecesWithin_encode (cs : List Char) {fuel : Nat}
    (h : (cs.flatMap String.utf8EncodeChar).length ≤ fuel) :
    piecesWithin fuel (cs.flatMap String.utf8EncodeChar) = cs.map some := by
  induction cs generalizing fuel with
  | nil => cases fuel <;> rfl
  | cons c cs ih =>
    obtain ⟨b, bs, hc, hp⟩ := piece_encodeChar c (cs.flatMap String.utf8EncodeChar)
    rw [List.flatMap_cons, hc, List.cons_append] at h ⊢
    cases fuel with
    | zero => cases h
    | succ fuel =>
      have shorter : (cs.flatMap String.utf8EncodeChar).length ≤ fuel := by
        simp only [List.length_cons, List.length_append] at h
        omega
      simp only [piecesWithin, hp, ih shorter, List.map_cons]

/-- A text is read back from its bytes. -/
theorem decode?_encode (s : String) : decode? (encode s) = some s := by
  have all : (s.toList.map some).mapM id = some s.toList := by
    rw [List.mapM_map]
    exact (List.mapM_pure (m := Option) (f := id)).trans (by rw [List.map_id]; rfl)
  rw [decode?, pieces, encode, piecesWithin_encode _ le_rfl, all, Option.map_some,
    String.ofList_toList]

end KvBridge.Utf8
