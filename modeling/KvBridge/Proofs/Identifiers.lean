import KvBridge.Ids
import KvBridge.Text.Utf8
import Mathlib.Logic.Function.Defs

/-!
# Identifiers are told apart

Identifiers of one stem are different texts if their numbers differ, for the digits of a number say
which one it is. Different texts are different bytes, so that they are different keys as well.

* `IdSource.name_injective`: numbers make identifiers distinct;
* `IdSource.draw_eq`: what a source hands out, as long as its numbers have room in 64 bits.
-/

namespace KvBridge

/-- Different texts are different bytes. -/
theorem Utf8.encode_injective : Function.Injective Utf8.encode := by
  intro s t h
  have bytes (s : String) : (Utf8.encode s).toByteArray = s.toByteArray := String.utf8Encode_toList
  rw [← String.toByteArray_inj, ← bytes s, ← bytes t, h]

namespace IdSource

/-- Different numbers make different identifiers. -/
theorem name_injective (stem : String) :
    Function.Injective fun n : Nat => stem ++ "-" ++ toString n := by
  intro m n h
  have hlist := congrArg String.toList h
  simp only [String.toList_append] at hlist
  have hdigits := congrArg (fun ds => Nat.ofDigitChars 10 ds 0) (List.append_cancel_left hlist)
  simpa [Nat.toString_eq_ofList_toDigits] using hdigits

/-- A source hands out its number and goes on to the next one. -/
theorem draw_eq (stem : String) {n : Nat} (hn : n < UInt64.size) :
    (⟨stem, UInt64.ofNat n⟩ : IdSource).draw =
      (stem ++ "-" ++ toString n, ⟨stem, UInt64.ofNat (n + 1)⟩) := by
  rw [draw, UInt64.ofNat_add]
  refine Prod.ext ?_ rfl
  show stem ++ "-" ++ toString (UInt64.ofNat n).toNat = _
  rw [UInt64.toNat_ofNat_of_lt' hn]

end IdSource

end KvBridge
