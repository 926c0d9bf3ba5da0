import KvBridge.Text.Blank
import KvBridge.Text.Percent
import KvBridge.Text.Punycode

/-!
# Hosts

A host is named by a domain, by four numbers, by eight numbers in base 16 between brackets, or by
any text of its own. Which of these an address allows depends on its scheme.

* `Host.isStrict4`, `Host.isStrict6`: numbers in their usual spelling;
* `Host.isDomain`: a domain, which may also be four numbers in one of several spellings;
* `Host.isFree`: a text of its own.
-/

namespace KvBridge.Postgres.Host

open KvBridge.Text (splitAll)

/-- The number that digits spell to a base of at most 16, if all of them are digits of that
base. -/
def number? (base : Nat) (cs : List Char) : Option Nat :=
  cs.foldlM (fun n c => do
    let d ← Text.hexDigit? c
    if d < base then some (base * n + d) else none) 0

/-! ## Numbers in their usual spelling -/

/-- Whether a text is a number up to 255 without zeros in front. -/
def isOctet (cs : List Char) : Bool :=
  !cs.isEmpty && (cs.length == 1 || cs.head? != some '0') && (number? 10 cs).any (· ≤ 255)

/-- Whether a text is four numbers up to 255 with points between them. -/
def isStrict4 (cs : List Char) : Bool :=
  let parts := splitAll '.' cs
  parts.length == 4 && parts.all isOctet

/-- Whether a text is a number of at most four digits in base 16. -/
def isGroup (cs : List Char) : Bool :=
  !cs.isEmpty && cs.length ≤ 4 && cs.all fun c => (Text.hexDigit? c).isSome

/-- How many groups a text spells with colons between them. The last two may be spelled as four
numbers when nothing follows. -/
def groups? (atEnd : Bool) (cs : List Char) : Option Nat :=
  if cs.isEmpty then some 0
  else
    let parts := splitAll ':' cs
    if parts.all isGroup then some parts.length
    else if atEnd && parts.dropLast.all isGroup && parts.getLast?.any isStrict4 then
      some (parts.length + 1)
    else none

/-- Cuts at the first two colons in a row. -/
def cutColons? : List Char → Option (List Char × List Char)
  | ':' :: ':' :: cs => some ([], cs)
  | c :: cs => (cutColons? cs).map fun (before, after) => (c :: before, after)
  | [] => none

/-- Whether a text is eight groups. Two colons in a row stand for at least one. -/
def isStrict6 (cs : List Char) : Bool :=
  match cutColons? cs with
  | none => groups? true cs == some 8
  | some (before, after) =>
    match groups? false before, groups? true after with
    | some a, some b => a + b < 8
    | _, _ => false

/-- Whether a text is eight groups between brackets. -/
def isBracketed (cs : List Char) : Bool :=
  match cs with
  | '[' :: cs => cs.getLast? == some ']' && isStrict6 cs.dropLast
  | _ => false

/-! ## Texts of their own -/

/-- Whether a text stands for itself: no mark of an address, no blank and no zero is in it. -/
def isFree (cs : List Char) : Bool :=
  isBracketed cs || cs.all fun c => !("\x00\t\n\r #/:<>?@[\\]^|".toList.contains c)

/-! ## Four numbers in a domain -/

/-- A number in base 16, 8 or 10, as its first digits say. -/
def anyNumber? : List Char → Option Nat
  | [] => none
  | '0' :: c :: cs => if c = 'x' ∨ c = 'X' then number? 16 cs else number? 8 (c :: cs)
  | cs => number? 10 cs

/-- The parts between points. A point at the end does not count. -/
def points (cs : List Char) : List (List Char) :=
  let parts := splitAll '.' cs
  if 1 < parts.length ∧ parts.getLast? = some [] then parts.dropLast else parts

/-- Whether a domain is meant to be numbers, which its last part tells. -/
def endsInNumber (cs : List Char) : Bool :=
  (points cs).getLast?.any fun part =>
    (!part.isEmpty && part.all Char.isDigit) || (anyNumber? part).isSome

/-- Whether a domain is up to four numbers. The last one fills what the others leave. -/
def isLoose4 (cs : List Char) : Bool :=
  match (points cs).mapM anyNumber? with
  | none => false
  | some ns =>
    ns.length ≤ 4 && ns.dropLast.all (· ≤ 255) &&
      ns.getLast?.any (· < UInt32.size >>> (8 * (ns.length - 1)))

/-! ## Domains -/

/-- A character as it counts in a domain: wide forms count as the plain ones, and other full
stops as the plain one. -/
def plainForm (c : Char) : Char :=
  if '\uFF01' ≤ c ∧ c ≤ '\uFF5E' then Char.ofNat (c.toNat - 0xFEE0)
  else if c = '\u3002' ∨ c = '\uFF61' then '.'
  else c

/-- Whether a character of a domain counts for nothing: soft hyphens, marks where a line may or
may not end, and choices between forms. -/
def isIgnored (c : Char) : Bool :=
  "\u00AD\u034F\u200B\u2060\u2064\uFEFF".toList.contains c ||
    ('\u180B' ≤ c && c ≤ '\u180F' && c != '\u180E') || ('\uFE00' ≤ c && c ≤ '\uFE0F')

/-- First and last code point of each range of characters beyond the first 128 that no domain has:
controls, blanks, marks of direction, characters for private use, and what is no character. -/
def barred : List (Nat × Nat) := [
  (0x80, 0xA0), (0x61C, 0x61C), (0x1680, 0x1680), (0x180E, 0x180E), (0x2000, 0x200F),
  (0x2028, 0x202F), (0x205F, 0x206F), (0x3000, 0x3000), (0xE000, 0xF8FF), (0xFDD0, 0xFDEF),
  (0xFFF9, 0xFFFF), (0x1FFFE, 0x1FFFF), (0x2FFFE, 0x2FFFF), (0x3FFFE, 0x10FFFF)]

/-- Whether a character may stand in a domain. -/
def isDomainChar (c : Char) : Bool :=
  if c.toNat < 0x80 then
    0x20 < c.toNat && c != '\x7F' && !("%#/:<>?@[\\]^|".toList.contains c)
  else barred.all fun (a, b) => c.toNat < a || b < c.toNat

/-- Whether a character is drawn on the one before it, which must not be missing. -/
def isMark (c : Char) : Bool := '\u0300' ≤ c && c ≤ '\u036F'

/-- Whether a label is in order. One that is spelled in plain letters must need it. -/
def isLabel (cs : List Char) : Bool :=
  match cs.map Char.toLower with
  | 'x' :: 'n' :: '-' :: '-' :: cs =>
    (Text.Punycode.decode? cs).any fun cs =>
      cs.any (0x80 ≤ ·.toNat) && !cs.head?.any isMark &&
        cs.all fun c => isDomainChar c && !isIgnored c && plainForm c == c
  | cs => !cs.head?.any isMark

/-- Whether a text names a domain, when bytes may be spelled by percent signs. -/
def isDomain (cs : List Char) : Bool :=
  isBracketed cs ||
    match Utf8.decode? (Text.percentDecode cs) with
    | none => false
    | some s =>
      let cs := (s.toList.filter fun c => !isIgnored c).map plainForm
      !cs.isEmpty && cs.all isDomainChar && (splitAll '.' cs).all isLabel &&
        (!endsInNumber cs || isLoose4 cs)

end KvBridge.Postgres.Host
