import KvBridge.Crypto.Base64
import KvBridge.Text.Utf8

/-!
# Bytes in a mail

A block of bytes is written in base 64, in lines of 64 characters of which only the last may be
shorter, between two lines that name what the bytes are. Words may stand before it, nothing after
it. Lines end with a line feed, a carriage return, or both; the words end with a line feed. An
empty line may stand behind the last one, and a second one if that is full and has no filling.

* `Pem.decode?`: the bytes of the block of a name.
-/

namespace KvBridge.Pem

/-- What follows the end of a line. -/
def eol? : Bytes → Option Bytes
  | 0x0D :: 0x0A :: bs => some bs
  | 0x0D :: bs => some bs
  | 0x0A :: bs => some bs
  | _ => none

/-- What stands before the end of the last line, which the bytes end with. They are given, and
come back, from the last one to the first. -/
def eolBackwards? : Bytes → Option Bytes
  | 0x0A :: 0x0D :: bs => some bs
  | 0x0A :: bs => some bs
  | 0x0D :: bs => some bs
  | _ => none

/-- What follows some bytes. -/
def after? (start bs : Bytes) : Option Bytes :=
  if start.isPrefixOf bs then some (bs.drop start.length) else none

def dashes : Bytes := Utf8.encode "-----"

def begins : Bytes := Utf8.encode "-----BEGIN "

def ends : Bytes := Utf8.encode "-----END "

/-- What follows the words before the block. They hold no zero, and a line feed ends them. -/
def afterWords? : Bytes → Option Bytes
  | [] => none
  | b :: bs =>
    if b = 0 then none
    else if b = 0x0A ∧ begins.isPrefixOf bs then some bs
    else afterWords? bs

/-- The lines between the first and the last one. -/
def body? (label : String) (text : Bytes) : Option Bytes := do
  let label := Utf8.encode label
  let text ← if begins.isPrefixOf text then some text else afterWords? text
  let text ← after? (begins ++ label ++ dashes) text
  let text ← eol? text
  let backwards := text.reverse
  let backwards := (eolBackwards? backwards).getD backwards
  let backwards ← after? (ends ++ label ++ dashes).reverse backwards
  return (← eolBackwards? backwards).reverse

/-- The last line, if there is anything, without its end. -/
def lastLine (bs : Bytes) : List Bytes :=
  if bs.isEmpty then []
  else [(eolBackwards? bs.reverse).elim bs List.reverse]

/-- The lines of 64 characters, at most `fuel` of them, and the last one. -/
def linesWithin : (fuel : Nat) → Bytes → Option (List Bytes)
  | 0, bs => some (lastLine bs)
  | fuel + 1, bs =>
    if bs.length ≤ 64 then some (lastLine bs)
    else do
      let rest ← eol? (bs.drop 64)
      return bs.take 64 :: (← linesWithin fuel rest)

/-- The lines of 64 characters and the last one. -/
def lines? (bs : Bytes) : Option (List Bytes) := linesWithin (bs.length / 64) bs

/-- The bytes of lines. No filling stands before an empty line. -/
def ofLines? (lines : List Bytes) : Option Bytes :=
  let bs := lines.flatten
  if lines.getLast? = some [] ∧ bs.contains Base64.filling then none else Base64.decode? bs

/-- The bytes of the block of a name. -/
def decode? (label : String) (text : Bytes) : Option Bytes := do
  ofLines? (← lines? (← body? label text))

end KvBridge.Pem
