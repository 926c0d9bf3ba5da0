import KvBridge.Failure
import KvBridge.Time.Clock

/-!
# Values with a header

An embedded store holds each value behind a header of eight bytes: the reading from which on the
value has expired, most significant byte first. A header of zero says that it never does, so a
deadline of zero is written as one.

* `Record.encode`, `Record.decode`: with header and without;
* `Record.live`: the value, if it is live.
-/

namespace KvBridge

/-- A value and its deadline. -/
structure Record where
  value : Bytes
  expiresAt : Option Reading
deriving DecidableEq, Repr

namespace Record

/-- The bytes of a header. -/
def headerWidth : Nat := 8

/-- Whether the deadline is still to come. -/
def isLive (r : Record) (now : Reading) : Bool := r.expiresAt.all (now < ·)

/-- The header of a deadline. -/
def header (expiresAt : Option Reading) : Nat :=
  match expiresAt with
  | none => 0
  | some moment => max moment.toNat 1

/-- A value with its header. -/
def encode (value : Bytes) (expiresAt : Option Reading) : Bytes :=
  Bytes.bigEndian headerWidth (header expiresAt) ++ value

/-- Why bytes are no value with a header. -/
def tooShort (length : Nat) : Cause :=
  .text ("stored value is " ++ toString length ++ " bytes, shorter than the " ++
    toString headerWidth ++ "-byte header")

/-- A value without its header. -/
def decode (raw : Bytes) : Except Cause Record :=
  if raw.length < headerWidth then .error (tooShort raw.length)
  else
    let moment := Bytes.ofBigEndian (raw.take headerWidth)
    .ok ⟨raw.drop headerWidth, if moment = 0 then none else some (UInt64.ofNat moment)⟩

/-- The value, if it is live. -/
def live (raw : Bytes) (now : Reading) : Except Cause (Option Bytes) := do
  let r ← decode raw
  return if r.isLive now then some r.value else none

end Record

end KvBridge
