import KvBridge.Json.Numeral

/-!
# Documents as they are read

A document is read from left to right, and reading may break off. `Doc` is what the text shows: a
tree whose last branch may end in a break. What counts as a break depends on the use that is made
of a part: a part that is kept is read strictly, a part that is passed over is only read for its
shape. So a number too large for the format, a text that is no UTF-8 and too deep a nesting are
kept in the tree, and found when the part is used.

* `Doc.passOver`: the first problem of a part that is passed over.
-/

namespace KvBridge.Json

/-- What is out of place in a text that is no document. -/
inductive Flaw
  /-- Something else where a document is due. -/
  | document
  /-- A word that is not one of the three. -/
  | word
  | number
  /-- A number beyond the largest. -/
  | range
  /-- An escape with an unknown letter. -/
  | escape
  /-- An escape whose four digits are none. -/
  | digits
  /-- A control character in a text. -/
  | control
  /-- The first half of a pair of code units, and no escape after it. -/
  | firstHalf
  /-- Half of a pair of code units where the other half, or none, is due. -/
  | otherHalf
  /-- A text that is no UTF-8. -/
  | encoding
  /-- Something else where the name of a member is due. -/
  | name
  | colon
  /-- Something else where a comma or the end of an array is due. -/
  | itemEnd
  /-- Something else where a comma or the end of an object is due. -/
  | memberEnd
  /-- A comma with nothing after it. -/
  | comma
  /-- Something after the end. -/
  | surplus
  /-- A nesting that is too deep. -/
  | depth
deriving DecidableEq, Repr

/-- What a text ends in the middle of. -/
inductive Part
  | list
  | object
  | string
  | value
deriving DecidableEq, Repr

/-- How a text fails to be a document: by what it holds, or by ending too early. -/
inductive ReadFault
  | malformed (flaw : Flaw)
  | endsEarly (part : Part)
deriving DecidableEq, Repr

/-- A place where reading breaks off, with what is wrong for a part that is kept and for one that
is passed over. -/
structure Break where
  kept : ReadFault
  passed : ReadFault
deriving DecidableEq, Repr

/-- A break that is the same for both uses. -/
def Break.of (fault : ReadFault) : Break := ⟨fault, fault⟩

/-- A text in a document, or what is wrong with its content when its quotes are in order. -/
abbrev Literal := Except ReadFault String

/-- What had begun where reading broke off: nothing at the end of the text, a text, or else. -/
inductive Begun
  | nothing
  | text
  | other
deriving DecidableEq, Repr

mutual

/-- A document as it is read. An array or object ends in a break when reading broke off where a
comma or its end was due. -/
inductive Doc
  | null
  | bool (b : Bool)
  | number (n : Numeral)
  | text (s : Literal)
  | array (items : List Doc) (stop : Option Break)
  | object (members : List Member) (stop : Option Break)
  | broken (begun : Begun) (stop : Break)

/-- A member of an object. Where a name was due and none stood, reading broke off; what was found
in its place is kept. -/
inductive Member
  | named (name : Literal) (value : Doc)
  | misnamed (found : Doc) (stop : Break)

end

/-- The problem where an array or object ends, for a part that is passed over. -/
def passOverStop : Option Break → Except ReadFault Unit
  | none => .ok ()
  | some stop => .error stop.passed

/-- The problem where an array or object ends, for a part that is kept. -/
def keepStop : Option Break → Except ReadFault Unit
  | none => .ok ()
  | some stop => .error stop.kept

mutual

/-- The first problem of a part that is passed over. -/
def Doc.passOver : Doc → Except ReadFault Unit
  | .null | .bool _ | .number _ | .text _ => .ok ()
  | .array items stop => do passOverItems items; passOverStop stop
  | .object members stop => do passOverMembers members; passOverStop stop
  | .broken _ stop => .error stop.passed
termination_by structural d => d

def passOverItems : List Doc → Except ReadFault Unit
  | [] => .ok ()
  | d :: ds => do d.passOver; passOverItems ds
termination_by structural ds => ds

def passOverMembers : List Member → Except ReadFault Unit
  | [] => .ok ()
  | m :: ms => do m.passOver; passOverMembers ms
termination_by structural ms => ms

def Member.passOver : Member → Except ReadFault Unit
  | .named _ d => d.passOver
  | .misnamed _ stop => .error stop.passed
termination_by structural m => m

end

end KvBridge.Json
