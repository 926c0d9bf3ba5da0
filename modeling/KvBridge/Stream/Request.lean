import KvBridge.Config
import KvBridge.Json.Value

/-!
# Requests to the ingestion service

A request opens a channel or inserts rows into the table of a channel. It goes to an address of the
service, with the text of a token that was made for it and a JSON object that bears an identifier of
its own.

* `Payload.body`: the JSON object that is sent;
* `Request`: what is posted.
-/

namespace KvBridge.Stream

/-- Where rows go: a channel of a table, in the name of a role. -/
structure Target where
  role : String
  database : String
  schema : String
  table : String
  channel : String
deriving DecidableEq, Repr

/-- The target of a configuration. -/
def Target.ofConfig (c : StreamConfig) : Target :=
  ⟨c.role, c.database, c.schema, c.table, c.channel⟩

/-- Rows, with their place in the channel. -/
structure Rows where
  clientSequencer : Int
  rowSequencer : Int
  offsetToken : Option String
  rows : List Json

/-- What is asked for. -/
inductive Ask
  | openChannel (mode : WriteMode)
  | insertRows (rows : Rows)

/-- The path behind the address of the service. -/
def Ask.path : Ask → String
  | .openChannel _ => "/v1/streaming/channels/open/"
  | .insertRows _ => "/v1/streaming/channels/write/blobs/"

/-- What is asked for, of which target, under which identifier. -/
structure Payload where
  requestId : String
  target : Target
  ask : Ask

namespace Payload

/-- The members that depend on what is asked for. An offset that is not known is left out. -/
def askMembers : Ask → List (String × Json)
  | .openChannel mode => [("write_mode", mode.toJson)]
  | .insertRows r =>
    [("client_sequencer", .ofInt r.clientSequencer), ("row_sequencer", .ofInt r.rowSequencer)] ++
      (r.offsetToken.toList.map fun t => ("offset_token", .text t)) ++ [("rows", .array r.rows)]

/-- The JSON object that is sent. -/
def body (p : Payload) : Json :=
  .ofMembers ([("request_id", .text p.requestId), ("role", .text p.target.role),
    ("database", .text p.target.database), ("schema", .text p.target.schema),
    ("table", .text p.target.table), ("channel", .text p.target.channel)] ++ askMembers p.ask)

end Payload

/-- What is posted: the address, the text of the token and the JSON object. -/
structure Request where
  url : String
  token : String
  body : Json

/-- What comes back: a status and a body. -/
structure Response where
  status : Nat
  body : Bytes
deriving DecidableEq, Repr

end KvBridge.Stream
