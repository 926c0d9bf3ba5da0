import KvBridge.Store.Record

/-!
# Headers and what they tell

A header tells its deadline, but for a deadline of zero, which it tells as one (`readBack`): zero
says that there is none. Reading gives back what was written up to this (`decode_encode`), and
writing gives back what was read, byte for byte (`decode_eq_ok_iff`), so that bytes which can be
read at all are those of one value with one deadline. Nothing turns a value with a deadline into
one without, and a value without a deadline stays live (`framing_faithful`).
-/

namespace KvBridge.Record

variable {value value' raw : Bytes} {e e' : Option Reading} {n : Nat}

/-! ## Headers -/

theorem header_lt (e : Option Reading) : header e < Bytes.capacity headerWidth := by
  have hc : Bytes.capacity headerWidth = 18446744073709551616 := by decide
  rw [hc]
  cases e with
  | none => simp [header]
  | some moment =>
    have h := moment.toNat_lt
    simp only [header]
    omega

/-- The deadline that is read for one that was written: a deadline of zero reads as one. -/
def readBack (moment : Reading) : Reading := if moment = 0 then 1 else moment

theorem ofNat_header (moment : Reading) :
    UInt64.ofNat (header (some moment)) = readBack moment := by
  rw [← UInt64.toNat_inj, UInt64.toNat_ofNat_of_lt' (header_lt (some moment))]
  simp only [header, readBack]
  split
  · rename_i h
    rw [h]
    rfl
  · rename_i h
    have : moment.toNat ≠ 0 := fun h0 => h (UInt64.toNat_inj.1 h0)
    omega

/-- Of a deadline and one, the later is read. -/
theorem readBack_eq_max (moment : Reading) : readBack moment = max moment 1 := by
  rw [readBack, show max moment 1 = if moment ≤ 1 then 1 else moment from rfl]
  grind

theorem map_readBack (dated : e ≠ some 0) : e.map readBack = e := by
  cases e with
  | none => rfl
  | some moment =>
    have later : moment ≠ 0 := fun zero => dated (congrArg some zero)
    rw [Option.map_some, readBack, if_neg later]

theorem header_map_readBack (e : Option Reading) : header (e.map readBack) = header e := by
  by_cases zero : e = some 0
  · rw [zero]
    rfl
  · rw [map_readBack zero]

/-- The deadline that the number of a header tells. -/
def deadline? (n : Nat) : Option Reading := if n = 0 then none else some (UInt64.ofNat n)

theorem deadline?_header (e : Option Reading) : deadline? (header e) = e.map readBack := by
  cases e with
  | none => rfl
  | some moment =>
    have positive : header (some moment) ≠ 0 := by
      simp only [header]
      omega
    rw [deadline?, if_neg positive, ofNat_header, Option.map_some]

/-- Each number that fits a header is the header of the deadline that it tells. -/
theorem header_deadline? (fits : n < Bytes.capacity headerWidth) : header (deadline? n) = n := by
  rw [deadline?]
  split
  · rename_i zero
    exact zero.symm
  · rename_i positive
    rw [header, UInt64.toNat_ofNat_of_lt' fits]
    omega

/-- No header tells a deadline of zero. -/
theorem deadline?_ne_zero (fits : n < Bytes.capacity headerWidth) : deadline? n ≠ some 0 := by
  intro zero
  have told := header_deadline? fits
  rw [zero] at told
  cases told
  cases zero

/-! ## Reading and writing -/

theorem decode_of_le (long : headerWidth ≤ raw.length) :
    decode raw =
      .ok ⟨raw.drop headerWidth, deadline? (Bytes.ofBigEndian (raw.take headerWidth))⟩ := by
  rw [decode, if_neg (Nat.not_lt.2 long)]
  rfl

/-- Only bytes that are too short for a header cannot be read. -/
theorem decode_eq_error_iff {why : Cause} :
    decode raw = .error why ↔ raw.length < headerWidth ∧ why = tooShort raw.length := by
  rw [decode]
  split
  · rename_i short
    exact ⟨fun h => ⟨short, (Except.error.inj h).symm⟩, fun h => congrArg _ h.2.symm⟩
  · rename_i long
    exact ⟨nofun, fun h => absurd h.1 long⟩

/-- Reading gives back the value and its deadline, but for a deadline of zero. -/
theorem decode_encode (value : Bytes) (e : Option Reading) :
    decode (encode value e) = .ok ⟨value, e.map readBack⟩ := by
  have hl : (Bytes.bigEndian headerWidth (header e)).length = headerWidth :=
    Bytes.length_bigEndian _ _
  have long : headerWidth ≤ (encode value e).length := by
    rw [encode, List.length_append, hl]
    omega
  rw [decode_of_le long, encode, List.take_left' hl, List.drop_left' hl,
    Bytes.ofBigEndian_bigEndian (header_lt e), deadline?_header]

/-- What can be read is what a value and a deadline other than zero are written as. -/
theorem decode_eq_ok_iff {r : Record} :
    decode raw = .ok r ↔ r.expiresAt ≠ some 0 ∧ encode r.value r.expiresAt = raw := by
  constructor
  · intro read
    have long : headerWidth ≤ raw.length := Nat.not_lt.1 fun short => by
      rw [decode_eq_error_iff.2 ⟨short, rfl⟩] at read
      cases read
    have width : (raw.take headerWidth).length = headerWidth := List.length_take_of_le long
    have fits := Bytes.ofBigEndian_lt (raw.take headerWidth)
    have spelt := Bytes.bigEndian_ofBigEndian (raw.take headerWidth)
    rw [width] at fits spelt
    rw [decode_of_le long] at read
    cases read
    refine ⟨deadline?_ne_zero fits, ?_⟩
    rw [encode, header_deadline? fits, spelt, List.take_append_drop]
  · rintro ⟨dated, rfl⟩
    rw [decode_encode, map_readBack dated]

/-- Two values are written as the same bytes exactly if they are equal and their deadlines read
alike. -/
theorem encode_eq_encode_iff :
    encode value e = encode value' e' ↔ value = value' ∧ e.map readBack = e'.map readBack := by
  constructor
  · intro same
    have read := decode_encode value e
    rw [same, decode_encode, Except.ok.injEq, Record.mk.injEq] at read
    exact ⟨read.1.symm, read.2.symm⟩
  · rintro ⟨rfl, alike⟩
    rw [encode, encode, ← header_map_readBack e, alike, header_map_readBack]

/-! ## Live values -/

/-- What was written can be read, and is live as long as the deadline that is read. -/
theorem live_encode (value : Bytes) (e : Option Reading) (now : Reading) :
    live (encode value e) now =
      .ok (if (⟨value, e.map readBack⟩ : Record).isLive now then some value else none) := by
  rw [live, decode_encode]
  rfl

theorem live_encode_none (value : Bytes) (now : Reading) :
    live (encode value none) now = .ok (some value) := by
  rw [live_encode]
  rfl

/-- A value with a deadline is live until it comes. -/
theorem live_encode_some (value : Bytes) (moment now : Reading) :
    live (encode value (some moment)) now =
      .ok (if now < readBack moment then some value else none) := by
  simp only [live_encode, isLive, Option.map_some, Option.all_some, decide_eq_true_eq]

theorem live_encode_eq_some_iff {now : Reading} :
    live (encode value e) now = .ok (some value) ↔
      e = none ∨ ∃ moment, e = some moment ∧ now < readBack moment := by
  cases e with
  | none => exact iff_of_true (live_encode_none value now) (.inl rfl)
  | some moment => simp [live_encode_some]

theorem live_encode_eq_none_iff {now : Reading} :
    live (encode value e) now = .ok none ↔ ∃ moment, e = some moment ∧ readBack moment ≤ now := by
  cases e with
  | none => simp [live_encode_none]
  | some moment => simp [live_encode_some]

/-- Only what was written without a deadline is live for ever. -/
theorem live_encode_forever_iff :
    (∀ now, live (encode value e) now = .ok (some value)) ↔ e = none := by
  constructor
  · intro forever
    cases e with
    | none => rfl
    | some moment =>
      have expired : live (encode value (some moment)) (readBack moment) = .ok none :=
        live_encode_eq_none_iff.2 ⟨moment, rfl, UInt64.le_refl _⟩
      rw [forever] at expired
      cases expired
  · rintro rfl now
    exact live_encode_none value now

/-! ## The framing as a whole -/

/-- A header loses nothing but the difference between a deadline of zero and one of one. What was
written is read back up to this, so that no other two writings are the same bytes; all bytes but
those that are too short for a header can be read, and are written again as they were. What was
written is live until its deadline comes: never longer, and for ever only without a deadline. -/
theorem framing_faithful :
    (∀ value e, decode (encode value e) = .ok ⟨value, e.map (max · 1)⟩) ∧
      (∀ value value' e e', e ≠ some 0 → e' ≠ some 0 → encode value e = encode value' e' →
        value = value' ∧ e = e') ∧
      (∀ raw, (∃ why, decode raw = .error why) ↔ raw.length < 8) ∧
      (∀ raw, 8 ≤ raw.length → ∃ r, decode raw = .ok r ∧ r.expiresAt ≠ some 0 ∧
        encode r.value r.expiresAt = raw) ∧
      (∀ value e now, live (encode value e) now = .ok (some value) ↔
        e = none ∨ ∃ moment, e = some moment ∧ now < max moment 1) ∧
      (∀ value e now, live (encode value e) now = .ok none ↔
        ∃ moment, e = some moment ∧ max moment 1 ≤ now) ∧
      ∀ value e, (∀ now, live (encode value e) now = .ok (some value)) ↔ e = none := by
  simp only [← readBack_eq_max]
  refine ⟨decode_encode, fun value value' e e' dated dated' same => ?_, fun raw => ?_,
    fun raw long => ?_, fun _ _ _ => live_encode_eq_some_iff, fun _ _ _ => live_encode_eq_none_iff,
    fun _ _ => live_encode_forever_iff⟩
  · obtain ⟨values, deadlines⟩ := encode_eq_encode_iff.1 same
    rw [map_readBack dated, map_readBack dated'] at deadlines
    exact ⟨values, deadlines⟩
  · simp only [decode_eq_error_iff, exists_and_left, exists_eq, and_true]
    rfl
  · exact ⟨_, decode_of_le long, decode_eq_ok_iff.1 (decode_of_le long)⟩

/-- Around the first readings of a clock, a deadline of zero is kept as one of one; eight bytes are
a header with nothing behind it, and seven are nothing. -/
theorem framing_faithful_of_first_readings :
    let value : Bytes := [0, 255]
    let bare : Bytes := List.replicate 8 255
    (some 1 : Option Reading) ≠ some 0 ∧ (none : Option Reading) ≠ some 0 ∧
      encode value (some 1) ≠ encode value none ∧
      decode (encode value (some 0)) = .ok ⟨value, some 1⟩ ∧
      (∃ why, decode (List.replicate 7 0) = .error why) ∧
      (8 ≤ bare.length ∧ ∃ r, decode bare = .ok r ∧ r.expiresAt ≠ some 0 ∧
        encode r.value r.expiresAt = bare) ∧
      live (encode value (some 0)) 0 = .ok (some value) ∧
      live (encode value (some 0)) 1 = .ok none ∧
      ∀ now, live (encode value none) now = .ok (some value) := by
  intro value bare
  obtain ⟨reads, differ, fails, rewrites, live, expired, forever⟩ := framing_faithful
  have dated : (some 1 : Option Reading) ≠ some 0 := by decide
  have undated : (none : Option Reading) ≠ some 0 := nofun
  refine ⟨dated, undated, fun same => ?_, reads value (some 0), (fails _).2 (by decide),
    ⟨by decide, rewrites bare (by decide)⟩, (live value (some 0) 0).2 (.inr ⟨0, rfl, by decide⟩),
    (expired value (some 0) 1).2 ⟨0, rfl, by decide⟩, (forever value none).2 rfl⟩
  obtain ⟨-, deadlines⟩ := differ value value (some 1) none dated undated same
  cases deadlines

end KvBridge.Record
