import KvBridge.Json.Document
import KvBridge.Text.Utf8

/-!
# Reading documents

Reading takes a byte string to the tree that it shows. Blanks are the space, the tab and the two
line ends.

* `readLiteral`: a text after its opening quote;
* `readNumeral`: a number;
* `readDoc`: a document and what stands after it.
-/

namespace KvBridge.Json

/-- What is left after a part: none when reading broke off in it. -/
abbrev Rest := Option Bytes

def isBlank (b : UInt8) : Bool := b == 0x20 || b == 0x09 || b == 0x0A || b == 0x0D

def skipBlanks (bs : Bytes) : Bytes := bs.dropWhile isBlank

/-- The fault of meeting these bytes in a part where something else is due. -/
def faultAt (part : Part) (flaw : Flaw) : Bytes → ReadFault
  | [] => .endsEarly part
  | _ :: _ => .malformed flaw

/-- Reads the bytes of a word that must follow. -/
def readWord (word : Bytes) (bs : Bytes) : Except ReadFault Bytes :=
  match word, bs with
  | [], bs => .ok bs
  | _ :: _, [] => .error (.endsEarly .value)
  | w :: word, b :: bs => if w = b then readWord word bs else .error (.malformed .word)

/-! ## Texts -/

/-- A part of a text between quotes: a byte, or a code unit that is spelt in hexadecimal. -/
inductive Unit16
  | byte (b : UInt8)
  | spelt (n : Nat)

/-- The byte that a letter after a backslash stands for. -/
def escaped? (b : UInt8) : Option UInt8 :=
  if b = 0x22 ∨ b = 0x5C ∨ b = 0x2F then some b
  else if b = 0x62 then some 0x08
  else if b = 0x66 then some 0x0C
  else if b = 0x6E then some 0x0A
  else if b = 0x72 then some 0x0D
  else if b = 0x74 then some 0x09
  else none

/-- The parts of a text up to its closing quote, and what follows; or the parts up to a break. -/
def scanLiteral : Bytes → List Unit16 × Except ReadFault Bytes
  | [] => ([], .error (.endsEarly .string))
  | 0x22 :: bs => ([], .ok bs)
  | 0x5C :: 0x75 :: a :: b :: c :: d :: bs =>
    match [a, b, c, d].mapM Bytes.hexDigit? with
    | none => ([], .error (.malformed .digits))
    | some ds =>
      let (us, r) := scanLiteral bs
      (.spelt (ds.foldl (16 * · + ·) 0) :: us, r)
  | [0x5C] => ([], .error (.endsEarly .string))
  | 0x5C :: 0x75 :: _ => ([], .error (.endsEarly .string))
  | 0x5C :: b :: bs =>
    match escaped? b with
    | none => ([], .error (.malformed .escape))
    | some b =>
      let (us, r) := scanLiteral bs
      -- An escaped letter is never part of a pair of code units.
      (.byte b :: us, r)
  | b :: bs =>
    if b < 0x20 then ([], .error (.malformed .control))
    else
      let (us, r) := scanLiteral bs
      (.byte b :: us, r)

def isHighUnit (n : Nat) : Bool := 0xD800 ≤ n && n < 0xDC00

def isLowUnit (n : Nat) : Bool := 0xDC00 ≤ n && n < 0xE000

/-- The fault of a first half of a pair of code units after which reading stops. Another half is
due, unless the text ends or the half is misspelt. -/
def afterFirstHalf : Option ReadFault → ReadFault
  | some (.endsEarly part) => .endsEarly part
  | some (.malformed .digits) => .malformed .digits
  | _ => .malformed .firstHalf

/-- Joins code units to characters, up to the fault at which reading stops, if there is one. -/
def joinUnits (stop : Option ReadFault) : List Unit16 → Except ReadFault Bytes
  | [] =>
    match stop with
    | none => .ok []
    | some fault => .error fault
  | .byte b :: us => (joinUnits stop us).map (b :: ·)
  | .spelt n :: us =>
    if isLowUnit n then .error (.malformed .otherHalf)
    else if isHighUnit n then
      match us with
      | .spelt m :: us =>
        if isLowUnit m then
          let c := Char.ofNat (0x10000 + (n - 0xD800) * 0x400 + (m - 0xDC00))
          (joinUnits stop us).map (String.utf8EncodeChar c ++ ·)
        else .error (.malformed .otherHalf)
      | [] => .error (afterFirstHalf stop)
      | .byte _ :: _ => .error (.malformed .firstHalf)
    else (joinUnits stop us).map (String.utf8EncodeChar (Char.ofNat n) ++ ·)

/-- The text of code units that end in their closing quote. -/
def literal (us : List Unit16) : Literal := do
  match Utf8.decode? (← joinUnits none us) with
  | some s => return s
  | none => throw (.malformed .encoding)

/-- Reads a text after its opening quote. -/
def readLiteral (bs : Bytes) : Except Break (Literal × Bytes) :=
  match scanLiteral bs with
  | (us, .ok rest) => .ok (literal us, rest)
  | (us, .error fault) =>
    match joinUnits (some fault) us with
    | .error first => .error ⟨first, fault⟩
    | .ok _ => .error (.of fault)

/-! ## Numbers -/

def isDigit (b : UInt8) : Bool := 0x30 ≤ b && b ≤ 0x39

def digitValue (b : UInt8) : Nat := b.toNat - 0x30

/-- The digits at the front, and what follows. -/
def readDigits (bs : Bytes) : List Nat × Bytes :=
  ((bs.takeWhile isDigit).map digitValue, bs.dropWhile isDigit)

/-- A digit is due. A text that ends here ends early only for a number that is kept. -/
def digitDue (bs : Bytes) : Break := ⟨faultAt .value .number bs, .malformed .number⟩

/-- Reads digits of which there must be one. -/
def readSomeDigits (bs : Bytes) : Except Break (List Nat × Bytes) :=
  match readDigits bs with
  | ([], rest) => .error (digitDue rest)
  | r => .ok r

/-- Reads the digits before the point. A zero stands alone. -/
def readWhole (bs : Bytes) : Except Break (List Nat × Bytes) := do
  match ← readSomeDigits bs with
  | (0 :: _ :: _, _) => .error (.of (.malformed .number))
  | r => .ok r

def readFraction : Bytes → Except Break (List Nat × Bytes)
  | 0x2E :: bs => readSomeDigits bs
  | bs => .ok ([], bs)

def readExponent : Bytes → Except Break (Option Int × Bytes)
  | b :: bs =>
    if b = 0x65 ∨ b = 0x45 then do
      let (negative, bs) := match bs with
        | 0x2B :: bs => (false, bs)
        | 0x2D :: bs => (true, bs)
        | bs => (false, bs)
      let (ds, rest) ← readSomeDigits bs
      let n : Nat := ds.foldl (10 * · + ·) 0
      return (some (if negative then -n else n), rest)
    else .ok (none, b :: bs)
  | [] => .ok (none, [])

/-- Reads a number after its sign. -/
def readNumeral (negative : Bool) (bs : Bytes) : Except Break (Numeral × Bytes) := do
  let (whole, bs) ← readWhole bs
  let (fraction, bs) ← readFraction bs
  let (exponent, bs) ← readExponent bs
  return (⟨negative, whole, fraction, exponent⟩, bs)

/-! ## Documents -/

/-- A part that was read, or the break in it. -/
def ofRead {α : Type} (begun : Begun) (make : α → Doc) : Except Break (α × Bytes) → Doc × Rest
  | .ok (a, rest) => (make a, some rest)
  | .error stop => (.broken begun stop, none)

/-- The end of the text where a document is due. -/
def absent : Doc := .broken .nothing (.of (.endsEarly .value))

/-- A document that breaks off. -/
def brokenOff (fault : ReadFault) : Doc := .broken .other (.of fault)

/-- Something else where a document is due. -/
def noDocument : Doc := brokenOff (.malformed .document)

/-- The break behind a document that breaks off itself, which is therefore never met. -/
def hidden : Break := .of (.malformed .surplus)

/-- What stands where a colon is due. -/
def missingColon (bs : Bytes) : Doc := brokenOff (faultAt .object .colon bs)

/-- A document that is one word. -/
def readConstant (doc : Doc) (word : Bytes) (bs : Bytes) : Doc × Rest :=
  match readWord word bs with
  | .ok rest => (doc, some rest)
  | .error fault => (brokenOff fault, none)

mutual

/-- Reads a document after blanks. -/
def readWithin : (fuel : Nat) → Bytes → Doc × Rest
  | 0, _ => (brokenOff (.malformed .depth), none)
  | fuel + 1, bs =>
    match skipBlanks bs with
    | [] => (absent, none)
    | 0x6E :: bs => readConstant .null (Utf8.encode "ull") bs
    | 0x74 :: bs => readConstant (.bool true) (Utf8.encode "rue") bs
    | 0x66 :: bs => readConstant (.bool false) (Utf8.encode "alse") bs
    | 0x22 :: bs => ofRead .text .text (readLiteral bs)
    | 0x2D :: bs => ofRead .other .number (readNumeral true bs)
    | 0x5B :: bs =>
      match skipBlanks bs with
      | 0x5D :: bs => (.array [] none, some bs)
      | [] => (.array [] (some (.of (.endsEarly .list))), none)
      | bs =>
        let (items, stop, rest) := readItems fuel bs
        (.array items stop, rest)
    | 0x7B :: bs =>
      match skipBlanks bs with
      | 0x7D :: bs => (.object [] none, some bs)
      | [] => (.object [] (some (.of (.endsEarly .object))), none)
      | bs =>
        let (members, stop, rest) := readMembers fuel bs
        (.object members stop, rest)
    | b :: bs =>
      if isDigit b then ofRead .other .number (readNumeral false (b :: bs))
      else (noDocument, none)
termination_by structural fuel => fuel

/-- Reads the items of an array from the next one on. -/
def readItems : (fuel : Nat) → Bytes → List Doc × Option Break × Rest
  | 0, _ => ([], some (.of (.malformed .depth)), none)
  | fuel + 1, bs =>
    match readWithin fuel bs with
    | (d, none) => ([d], some hidden, none)
    | (d, some rest) =>
      match skipBlanks rest with
      | 0x5D :: rest => ([d], none, some rest)
      | 0x2C :: rest =>
        match skipBlanks rest with
        | 0x5D :: _ => ([d], some (.of (.malformed .comma)), none)
        | rest =>
          let (ds, stop, rest) := readItems fuel rest
          (d :: ds, stop, rest)
      | rest => ([d], some (.of (faultAt .list .itemEnd rest)), none)
termination_by structural fuel => fuel

/-- Reads the members of an object from the next one on. An object ends here only after a comma. -/
def readMembers : (fuel : Nat) → Bytes → List Member × Option Break × Rest
  | 0, _ => ([], some (.of (.malformed .depth)), none)
  | fuel + 1, bs =>
    match skipBlanks bs with
    | [] => ([.misnamed absent (.of (.endsEarly .value))], none, none)
    | 0x7D :: _ => ([.misnamed noDocument (.of (.malformed .comma))], none, none)
    | 0x22 :: bs =>
      match readLiteral bs with
      | .error stop => ([.misnamed (.broken .text stop) stop], none, none)
      | .ok (name, rest) =>
        match skipBlanks rest with
        | 0x3A :: rest =>
          match readWithin fuel rest with
          | (d, none) => ([.named name d], some hidden, none)
          | (d, some rest) =>
            match skipBlanks rest with
            | 0x7D :: rest => ([.named name d], none, some rest)
            | 0x2C :: rest =>
              let (ms, stop, rest) := readMembers fuel rest
              (.named name d :: ms, stop, rest)
            | rest => ([.named name d], some (.of (faultAt .object .memberEnd rest)), none)
        | rest => ([.named name (missingColon rest)], some hidden, none)
    | bs => ([.misnamed (readWithin fuel bs).1 (.of (.malformed .name))], none, none)
termination_by structural fuel => fuel

end

/-- A text as a document, and whether something other than blanks follows it. Each level of
nesting takes a byte and two steps. -/
def readDoc (bs : Bytes) : Doc × Bool :=
  let (doc, rest) := readWithin (2 * bs.length + 2) bs
  (doc, rest.any fun rest => !(skipBlanks rest).isEmpty)

end KvBridge.Json
