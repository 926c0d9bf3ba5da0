import KvBridge.Json.Document
import KvBridge.Text.Quoted

/-!
# Why a text cannot be read

A text may fail to be a document, a document may fail to have the shape that is asked for, and a
text inside a document that holds another document may fail in either way.

* `ReadFault.message`, `Mismatch.message`, `Problem.message`: the words for each;
* `Mismatch`: how a well-formed document fails to have a shape;
* `Doc.found`: what a document is, where another kind is expected.
-/

namespace KvBridge.Json

/-- A mark, name or number as it is cited in a message. -/
def cited (s : String) : String := "`" ++ s ++ "`"

/-- The words for a flaw. -/
def Flaw.message : Flaw → String
  | .document => "expected value"
  | .word => "expected ident"
  | .number => "invalid number"
  | .range => "number out of range"
  | .escape | .digits => "invalid escape"
  | .control => "control character (\\u0000-\\u001F) found while parsing a string"
  | .firstHalf => "unexpected end of hex escape"
  | .otherHalf => "lone leading surrogate in hex escape"
  | .encoding => "invalid unicode code point"
  | .name => "key must be a string"
  | .colon => "expected " ++ cited ":"
  | .itemEnd => "expected " ++ cited "," ++ " or " ++ cited "]"
  | .memberEnd => "expected " ++ cited "," ++ " or " ++ cited "\x7d"
  | .comma => "trailing comma"
  | .surplus => "trailing characters"
  | .depth => "recursion limit exceeded"

/-- The words for what a text ends in. -/
def Part.message : Part → String
  | .list => "a list"
  | .object => "an object"
  | .string => "a string"
  | .value => "a value"

/-- The words for a fault. -/
def ReadFault.message : ReadFault → String
  | .malformed flaw => flaw.message
  | .endsEarly part => "EOF while parsing " ++ part.message

/-- What stands where something else is expected. -/
inductive Found
  | whole (n : Int)
  | binary (x : Binary64)
  | text (s : String)
  | bool (b : Bool)
  | null
  | sequence
  | map
deriving DecidableEq, Repr

/-- How a document fails to have a shape. -/
inductive Mismatch
  | missingField (name : String)
  | duplicateField (name : String)
  | wrongKind (found : Found) (expected : String)
  | outOfRange (n : Int) (expected : String)
  | wrongLength (length : Nat) (record : String) (fields : Nat)
  | unknownVariant (name : String) (known : List String)
deriving DecidableEq, Repr

/-- The words for what was found. -/
def Found.message : Found → String
  | .whole n => "integer " ++ cited (toString n)
  | .binary x => "floating point " ++ cited (Number.style.render x)
  | .text s => "string " ++ Text.quoted s
  | .bool b => "boolean " ++ cited (if b then "true" else "false")
  | .null => "null"
  | .sequence => "sequence"
  | .map => "map"

/-- The words for a mismatch. -/
def Mismatch.message : Mismatch → String
  | .missingField name => "missing field " ++ cited name
  | .duplicateField name => "duplicate field " ++ cited name
  | .wrongKind found expected => "invalid type: " ++ found.message ++ ", expected " ++ expected
  | .outOfRange n expected =>
    "invalid value: integer " ++ cited (toString n) ++ ", expected " ++ expected
  | .wrongLength length record fields =>
    "invalid length " ++ toString length ++ ", expected struct " ++ record ++ " with " ++
      toString fields ++ (if fields = 1 then " element" else " elements")
  | .unknownVariant name known =>
    "unknown variant " ++ cited name ++ ", expected " ++ " or ".intercalate (known.map cited)

/-- Why a text cannot be read as what is asked for. -/
inductive Problem
  | read (fault : ReadFault)
  | mismatch (how : Mismatch)
  /-- A problem of a document that stands in a text. -/
  | embedded (problem : Problem)
deriving DecidableEq, Repr

/-- The words for a problem. -/
def Problem.message : Problem → String
  | .read fault => fault.message
  | .mismatch how => how.message
  | .embedded problem => problem.message

/-- A fault of reading as a problem. -/
def reading {α : Type} (r : Except ReadFault α) : Except Problem α := r.mapError .read

/-- What a numeral stands for. -/
def Numeral.read (n : Numeral) : Except ReadFault Number :=
  match n.number? with
  | some n => .ok n
  | none => .error (.malformed .range)

/-- What a document is, as far as it must be read to tell: numbers and texts in full, arrays and
objects only to their opening bracket. -/
def Doc.found : Doc → Except ReadFault Found
  | .null => .ok .null
  | .bool b => .ok (.bool b)
  | .number n => do
    match ← n.read with
    | .whole n => return .whole n
    | .binary x => return .binary x
  | .text s => do return .text (← s)
  | .array _ _ => .ok .sequence
  | .object _ _ => .ok .map
  | .broken _ stop => .error stop.kept

/-- Refuses a document of another kind. -/
def unexpected {α : Type} (expected : String) (d : Doc) : Except Problem α := do
  throw (.mismatch (.wrongKind (← reading d.found) expected))

end KvBridge.Json
