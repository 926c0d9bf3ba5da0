import KvBridge.Json.Value

/-!
# Documents of a known shape

A `Shape` reads a document into a type. A record is read member by member: a name that it does not
know is passed over, a name that stands twice is refused when it stands the second time, and a
name that is missing keeps its default unless it is required. A record may also be written as an
array of its fields in order.

Problems are found from left to right: a document of the wrong kind where it begins, a missing
name where its object ends.

* `Shape.whole64`, `Shape.text`, `Shape.optional`, `Shape.list`, …: the shapes of the fields;
* `Record.shape`: the shape of a record;
* `Shape.read`: a text of that shape.
-/

namespace KvBridge.Json

/-- Reads a document that may nest so many levels deep. -/
abbrev Shape (α : Type) := (depth : Nat) → Doc → Except Problem α

namespace Shape

/-- A whole number of a range. -/
def whole (expected : String) (low high : Int) : Shape Int := fun _ d =>
  match d with
  | .number n => do
    match ← reading n.read with
    | .whole n =>
      if low ≤ n ∧ n ≤ high then return n else throw (.mismatch (.outOfRange n expected))
    | .binary _ => unexpected expected d
  | _ => unexpected expected d

/-- A whole number from 0 to 2⁶⁴ - 1. -/
def whole64 : Shape Nat := fun depth d => do
  return (← whole "u64" 0 0xFFFFFFFFFFFFFFFF depth d).toNat

/-- A whole number from 0 to 2³² - 1. -/
def whole32 : Shape Nat := fun depth d => do
  return (← whole "u32" 0 0xFFFFFFFF depth d).toNat

/-- A whole number from -2⁶³ to 2⁶³ - 1. -/
def signed64 : Shape Int := whole "i64" (-0x8000000000000000) 0x7FFFFFFFFFFFFFFF

/-- A text, called `expected` where it is missing. -/
def textAs (expected : String) : Shape String := fun _ d =>
  match d with
  | .text s => reading s
  | _ => unexpected expected d

def text : Shape String := textAs "a string"

def path : Shape String := textAs "path string"

def flag : Shape Bool := fun _ d =>
  match d with
  | .bool b => .ok b
  | _ => unexpected "a boolean" d

/-- A part that may be null. -/
def optional {α : Type} (shape : Shape α) : Shape (Option α) := fun depth d =>
  match d with
  | .null => .ok none
  | _ => (shape depth d).map some

/-- Goes one level down. -/
def nested {α : Type} (depth : Nat) (inside : Nat → Except Problem α) : Except Problem α :=
  match depth with
  | 0 => .error (.read (.malformed .depth))
  | depth + 1 => inside depth

/-- An array of parts of one shape. -/
def list {α : Type} (shape : Shape α) : Shape (List α) := fun depth d =>
  match d with
  | .array items stop => nested depth fun depth => do
    let as ← items.mapM (shape depth)
    reading (keepStop stop)
    return as
  | _ => unexpected "a sequence" d

/-- One of several names: a text, or an object whose one member has that name and is null. -/
def variant {α : Type} (known : List (String × α)) : Shape α :=
  let choose (name : String) : Except Problem α :=
    match known.lookup name with
    | some a => .ok a
    | none => .error (.mismatch (.unknownVariant name (known.map Prod.fst)))
  fun depth d =>
    match d with
    | .text s => do choose (← reading s)
    | .broken .nothing stop | .broken .text stop => .error (.read stop.kept)
    | .object members stop => nested depth fun _ => do
      match members with
      | [] =>
        reading (keepStop stop)
        throw (.read (.malformed .document))
      | .misnamed found _ :: _ => unexpected "variant identifier" found
      | .named name value :: more =>
        let a ← choose (← reading name)
        match value with
        | .null => pure ()
        | _ => unexpected "unit" value
        unless more.isEmpty do throw (.read (.malformed .document))
        reading (keepStop stop)
        return a
    | _ => .error (.read (.malformed .document))

/-- A text of a shape. -/
def read {α : Type} (shape : Shape α) (bs : Bytes) : Except Problem α := do
  let (doc, more) := readDoc bs
  let a ← shape maxDepth doc
  if more then throw (.read (.malformed .surplus))
  return a

end Shape

/-! ## Records -/

/-- A field of a record: its name, whether it has to be there, and how its part changes the record
that is being filled. -/
structure Field (ρ : Type) where
  name : String
  required : Bool
  fill : Shape (ρ → ρ)

namespace Field

/-- A field that keeps its default when it is missing. -/
def defaulted {ρ α : Type} (name : String) (shape : Shape α) (set : α → ρ → ρ) : Field ρ :=
  ⟨name, false, fun depth d => (shape depth d).map set⟩

/-- A field that has to be there. -/
def needed {ρ α : Type} (name : String) (shape : Shape α) (set : α → ρ → ρ) : Field ρ :=
  ⟨name, true, fun depth d => (shape depth d).map set⟩

end Field

/-- A record: its name in messages, its fields in order, and the record of the defaults. What that
holds for a required field is never seen. -/
structure Record (ρ : Type) where
  name : String
  blank : ρ
  fields : List (Field ρ)

namespace Record

variable {ρ : Type} (r : Record ρ)

/-- The field of a name. -/
def field? (name : String) : Option (Field ρ) := r.fields.find? (·.name == name)

/-- Takes in the members of an object one after the other. `seen` are the names that have stood. -/
def members (depth : Nat) :
    (seen : List String) → ρ → List Member → Except Problem (List String × ρ)
  | seen, acc, [] => .ok (seen, acc)
  | _, _, .misnamed _ stop :: _ => .error (.read stop.kept)
  | seen, acc, .named name d :: ms => do
    let name ← reading name
    match r.field? name with
    | none =>
      reading d.passOver
      members depth seen acc ms
    | some field =>
      if seen.contains name then throw (.mismatch (.duplicateField name))
      let set ← field.fill depth d
      members depth (name :: seen) (set acc) ms

/-- The first required field that has not stood. -/
def missing? (seen : List String) : Option (Field ρ) :=
  r.fields.find? fun field => field.required && !seen.contains field.name

/-- Takes in the items of an array for the fields in order. `index` fields have been filled. -/
def items (depth : Nat) (stop : Option Break) :
    (index : Nat) → List (Field ρ) → List Doc → ρ → Except Problem ρ
  | _, [], [], acc => do
    reading (keepStop stop)
    return acc
  | _, [], _ :: _, _ => .error (.read (.malformed .surplus))
  | index, field :: fields, [], acc => do
    reading (keepStop stop)
    if field.required then throw (.mismatch (.wrongLength index r.name r.fields.length))
    items depth stop (index + 1) fields [] acc
  | index, field :: fields, d :: ds, acc => do
    let set ← field.fill depth d
    items depth stop (index + 1) fields ds (set acc)

/-- The shape of the record. -/
def shape : Shape ρ := fun depth d =>
  match d with
  | .object members stop => Shape.nested depth fun depth => do
    let (seen, acc) ← r.members depth [] r.blank members
    reading (keepStop stop)
    match r.missing? seen with
    | some field => throw (.mismatch (.missingField field.name))
    | none => return acc
  | .array items stop => Shape.nested depth fun depth => r.items depth stop 0 r.fields items r.blank
  | _ => unexpected ("struct " ++ r.name) d

end Record

end KvBridge.Json
