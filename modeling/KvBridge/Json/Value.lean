import KvBridge.Json.Problem
import KvBridge.Json.Reader

/-!
# JSON values

A value is a document without its spelling: the members of an object are in the order of their
names, and of two members of one name the later counts.

* `Json.member?_ofMembers`: the members of an object;
* `Json.render`: the compact text of a value;
* `Doc.valueWithin`: the value of a document, which is read strictly;
* `Json.parse`: the value of a text.

An object may stand for another document: its one member has the name `embeddedName` and holds the
text of that document.
-/

namespace KvBridge

/-- A JSON value. The members of an object are in ascending order of their names, each name once. -/
inductive Json
  | null
  | bool (b : Bool)
  | number (n : Json.Number)
  | text (s : String)
  | array (items : List Json)
  | object (members : List (String × Json))
deriving Repr

namespace Json

/-- Sets a member and keeps the names in order. -/
def setMember (name : String) (v : Json) : List (String × Json) → List (String × Json)
  | [] => [(name, v)]
  | (n, w) :: ms =>
    if name < n then (name, v) :: (n, w) :: ms
    else if name = n then (name, v) :: ms
    else (n, w) :: setMember name v ms

/-- The object with these members, of which the last of each name counts. -/
def ofMembers (ms : List (String × Json)) : Json :=
  .object (ms.foldl (fun acc m => setMember m.1 m.2 acc) [])

/-- The member of an object, if the value is an object that has it. -/
def member? (v : Json) (name : String) : Option Json :=
  match v with
  | .object ms => ms.lookup name
  | _ => none

/-- A whole number. -/
def ofInt (n : Int) : Json := .number (.whole n)

theorem lookup_member (m : String × Json) (ms : List (String × Json)) (name : String) :
    (m :: ms).lookup name = if name = m.1 then some m.2 else ms.lookup name := by
  rw [List.lookup_cons]
  split <;> simp_all

theorem lookup_setMember (name : String) (v : Json) (ms : List (String × Json)) (n : String) :
    (setMember name v ms).lookup n = if n = name then some v else ms.lookup n := by
  induction ms with
  | nil => exact lookup_member (name, v) [] n
  | cons m ms ih =>
    rw [setMember]
    split
    · exact lookup_member (name, v) _ n
    split
    · rename_i same
      simp only [lookup_member, ← same]
      split <;> rfl
    · rename_i other
      simp only [lookup_member, ih]
      split
      · rename_i same
        rw [if_neg (same ▸ Ne.symm other)]
      · rfl

/-- Of the members of one name the last counts. -/
theorem member?_ofMembers (ms : List (String × Json)) (name : String) :
    (ofMembers ms).member? name = ms.reverse.lookup name := by
  rw [ofMembers, member?, List.foldl_eq_foldr_reverse]
  induction ms.reverse with
  | nil => rfl
  | cons m ms ih => rw [List.foldr_cons, lookup_setMember, ih, lookup_member]

/-! ## Writing -/

/-- The four digits of a code point below 256. -/
def escapedControl (c : Char) : List Char :=
  ['\\', 'u', '0', '0', Nat.digitChar (c.toNat / 16), Nat.digitChar (c.toNat % 16)]

/-- How a character of a text is written. Only the quote, the backslash and the controls below the
space cannot stand for themselves. -/
def writtenChar (c : Char) : List Char :=
  if c = '"' then ['\\', '"']
  else if c = '\\' then ['\\', '\\']
  else if c = '\x08' then ['\\', 'b']
  else if c = '\t' then ['\\', 't']
  else if c = '\n' then ['\\', 'n']
  else if c = '\x0c' then ['\\', 'f']
  else if c = '\r' then ['\\', 'r']
  else if c.toNat < 0x20 then escapedControl c
  else [c]

/-- A text between quotes. -/
def renderText (s : String) : String :=
  String.ofList ('"' :: s.toList.flatMap writtenChar ++ ['"'])

/-- A list of parts with commas between them. -/
def commas (parts : List String) : String := String.intercalate "," parts

mutual

/-- The text of a value, without blanks. -/
def render : Json → String
  | .null => "null"
  | .bool true => "true"
  | .bool false => "false"
  | .number n => n.render
  | .text s => renderText s
  | .array items => "[" ++ commas (renderItems items) ++ "]"
  | .object members => "\x7b" ++ commas (renderMembers members) ++ "\x7d"
termination_by structural v => v

def renderItems : List Json → List String
  | [] => []
  | v :: vs => v.render :: renderItems vs
termination_by structural vs => vs

def renderMembers : List (String × Json) → List String
  | [] => []
  | m :: ms => renderMember m :: renderMembers ms
termination_by structural ms => ms

def renderMember : String × Json → String
  | (name, v) => renderText name ++ ":" ++ v.render
termination_by structural m => m

end

/-! ## Reading -/

/-- The levels of nesting that are read. -/
def maxDepth : Nat := 127

/-- The name of a member that holds a document as a text. Only the first member of an object is
looked at. -/
def embeddedName : String := "$serde_json::private::RawValue"

/-- The member that holds a document as a text, and the members after it. -/
def embedded? : List Member → Option (Doc × List Member)
  | .named (.ok name) d :: more => if name = embeddedName then some (d, more) else none
  | _ => none

/-- The text of such a member. -/
def embeddedText : Doc → Except Problem String
  | .text s => reading s
  | d => unexpected "raw value" d

/-- Requires the end of an object behind such a member. -/
def endEmbedded (more : List Member) (stop : Option Break) : Except Problem Unit :=
  match more, stop with
  | [], none => .ok ()
  | [], some ⟨.endsEarly part, _⟩ => .error (.read (.endsEarly part))
  | [], some ⟨.malformed _, _⟩ => .error (.read (.malformed .surplus))
  | _ :: _, _ => .error (.read (.malformed .comma))

mutual

/-- The value of a document that may nest `depth` levels deep, where `parse` reads the texts that
hold documents. Of several problems the leftmost is reported. -/
def Doc.valueWithin (parse : String → Except Problem Json) (depth : Nat) :
    Doc → Except Problem Json
  | .null => .ok .null
  | .bool b => .ok (.bool b)
  | .number n => do return .number (← reading n.read)
  | .text s => do return .text (← reading s)
  | .array items stop =>
    match depth with
    | 0 => .error (.read (.malformed .depth))
    | depth + 1 => do
      let vs ← itemValues parse depth items
      reading (keepStop stop)
      return .array vs
  | .object members stop =>
    match depth with
    | 0 => .error (.read (.malformed .depth))
    | depth + 1 =>
      match embedded? members with
      | some (d, more) => do
        let v ← parse (← embeddedText d)
        endEmbedded more stop
        return v
      | none => do
        let ms ← memberValues parse depth members
        reading (keepStop stop)
        return ofMembers ms
  | .broken _ stop => .error (.read stop.kept)
termination_by structural d => d

def itemValues (parse : String → Except Problem Json) (depth : Nat) :
    List Doc → Except Problem (List Json)
  | [] => .ok []
  | d :: ds => do
    let v ← d.valueWithin parse depth
    let vs ← itemValues parse depth ds
    return v :: vs
termination_by structural ds => ds

def memberValues (parse : String → Except Problem Json) (depth : Nat) :
    List Member → Except Problem (List (String × Json))
  | [] => .ok []
  | m :: ms => do
    let v ← m.valueWithin parse depth
    let vs ← memberValues parse depth ms
    return v :: vs
termination_by structural ms => ms

def Member.valueWithin (parse : String → Except Problem Json) (depth : Nat) :
    Member → Except Problem (String × Json)
  | .named name d => do
    let name ← reading name
    let v ← d.valueWithin parse depth
    return (name, v)
  | .misnamed _ stop => .error (.read stop.kept)
termination_by structural m => m

end

/-- The value of a text with at most so many documents in one another. -/
def parseWithin : (levels : Nat) → Bytes → Except Problem Json
  | 0, _ => .error (.read (.malformed .depth))
  | levels + 1, bs => do
    let (doc, more) := readDoc bs
    let inner (s : String) := (parseWithin levels (Utf8.encode s)).mapError .embedded
    let v ← doc.valueWithin inner maxDepth
    if more then throw (.read (.malformed .surplus))
    return v

/-- The value of a text, which holds one document and nothing else. A document in a text is
shorter than the text around it. -/
def parse (bs : Bytes) : Except Problem Json := parseWithin (bs.length + 1) bs

end Json

end KvBridge
