import KvBridge.Text.Utf8

/-!
# Percent signs

A byte may be spelled by a percent sign and two digits in base 16. A percent sign before anything
else stands for itself.

* `hexDigit?`: the value of such a digit;
* `percentDecode`: the bytes that a text spells.
-/

namespace KvBridge.Text

/-- The value of a digit in base 16. -/
def hexDigit? (c : Char) : Option Nat :=
  if c.toNat < 128 then Bytes.hexDigit? (UInt8.ofNat c.toNat) else none

/-- The bytes that a text spells. -/
def percentDecode : List Char → Bytes
  | '%' :: a :: b :: cs =>
    match hexDigit? a, hexDigit? b with
    | some h, some l => UInt8.ofNat (16 * h + l) :: percentDecode cs
    | _, _ => Utf8.encode (String.ofList ['%']) ++ percentDecode (a :: b :: cs)
  | c :: cs => Utf8.encode (String.ofList [c]) ++ percentDecode cs
  | [] => []

end KvBridge.Text
