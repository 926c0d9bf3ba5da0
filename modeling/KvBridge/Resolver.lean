import KvBridge.Ids
import KvBridge.Message

/-!
# Resolvers

A resolver takes a message to the bytes of a key or a value. It may draw identifiers, so it is a
machine that answers and moves on. What a function of a caller gives depends on nothing but the
message. Each resolver has a source of its own: one that finds both the keys and the values of a
batch, and draws for both, is not described.

* `Resolver.resolve`: the answer for one message, and the resolver after it;
* `Resolver.resolveAll`: the answers for a batch, up to the first message that has none.
-/

namespace KvBridge

/-- How the bytes of a message are found. -/
inductive Resolver
  /-- The content. -/
  | content
  /-- The same bytes for every message. -/
  | constant (value : Bytes)
  /-- The text of a name, or else an identifier if there is a source of them. -/
  | metadata (name : String) (ids : Option IdSource)
  /-- A member of the content, which is a JSON object. -/
  | member (name : String)
  /-- What a function of the message gives. -/
  | custom (f : Message → Except Cause Bytes)

namespace Resolver

/-- The bytes of a member: a text as it is, anything else as its compact text. Null is no value. -/
def memberBytes (name : String) (m : Message) : Except Cause Bytes :=
  match m.document with
  | .error _ => .error (.context "message content is not valid JSON" (.text "not a JSON text"))
  | .ok doc =>
    match doc.member? name with
    | some (.text s) => .ok (Utf8.encode s)
    | some .null | none =>
      .error (.text ("field " ++ Text.quoted name ++ " is missing from message"))
    | some v => .ok (Utf8.encode v.render)

/-- Answers for one message. -/
def resolve (r : Resolver) (m : Message) : Except Cause Bytes × Resolver :=
  match r with
  | .content => (.ok m.content, r)
  | .constant value => (.ok value, r)
  | .metadata name ids =>
    match m.tag? name, ids with
    | some text, _ => (.ok (Utf8.encode text), r)
    | none, some ids =>
      let (id, ids) := ids.draw
      (.ok (Utf8.encode id), .metadata name (some ids))
    | none, none => (.error (.text ("metadata field " ++ Text.quoted name ++ " is not set")), r)
  | .member name => (memberBytes name m, r)
  | .custom f => (f m, r)

/-- Answers for the messages from place `index` on. The first that has no answer ends it. -/
def resolveFrom (r : Resolver) (index : Nat) :
    List Message → Except Failure (List Bytes) × Resolver
  | [] => (.ok [], r)
  | m :: ms =>
    match r.resolve m with
    | (.error cause, r) => (.error (.resolve index cause), r)
    | (.ok bytes, r) =>
      let (rest, r) := r.resolveFrom (index + 1) ms
      (rest.map (bytes :: ·), r)

/-- Answers for a batch. -/
def resolveAll (r : Resolver) (batch : List Message) :
    Except Failure (List Bytes) × Resolver :=
  r.resolveFrom 0 batch

/-- The text of a resolver that reads metadata. -/
def render? : Resolver → Option String
  | .metadata name ids =>
    some ("MetadataKey \x7b name: " ++ Text.quoted name ++ ", fallback: " ++
      (if ids.isSome then "true" else "false") ++ " \x7d")
  | _ => none

end Resolver

end KvBridge
