import KvBridge.Stream.Writer

/-!
# What a request says

The service knows no more of a request than its address, its token and its body. The address says
what is asked for; the body names the channel (`Request.Names`) and says which rows are inserted and
where (`Request.Inserts`), under the names that the service reads. What a writer posts says what the
writer was asked to do.

* `openingUrl`, `insertionUrl`: the two addresses of a service;
* `Writer.names_request`, `Writer.opens_request`, `Writer.inserts_request`: the requests of a
  writer.
-/

namespace KvBridge.Stream

/-! ## Addresses -/

/-- Where a service opens channels. -/
def openingUrl (service : String) : String := service ++ "/v1/streaming/channels/open/"

/-- Where a service inserts rows. -/
def insertionUrl (service : String) : String := service ++ "/v1/streaming/channels/write/blobs/"

theorem openingUrl_ne_insertionUrl (service : String) :
    openingUrl service ≠ insertionUrl service := by
  rw [openingUrl, insertionUrl, Ne, String.append_right_inj]
  decide +kernel

/-! ## Bodies -/

namespace Request

/-- The body names a channel, and the role in whose name it is used. -/
structure Names (r : Request) (target : Target) : Prop where
  role : r.body.member? "role" = some (.text target.role)
  database : r.body.member? "database" = some (.text target.database)
  schema : r.body.member? "schema" = some (.text target.schema)
  table : r.body.member? "table" = some (.text target.table)
  channel : r.body.member? "channel" = some (.text target.channel)

/-- The body asks for a channel that is written to through the storage of the service. -/
def Opens (r : Request) : Prop := r.body.member? "write_mode" = some (.text "CLOUD_STORAGE")

/-- The body inserts rows at their place. There is no offset if none is known. -/
structure Inserts (r : Request) (rows : Rows) : Prop where
  clientSequencer : r.body.member? "client_sequencer" = some (.ofInt rows.clientSequencer)
  rowSequencer : r.body.member? "row_sequencer" = some (.ofInt rows.rowSequencer)
  offsetToken : r.body.member? "offset_token" = rows.offsetToken.map .text
  rows : r.body.member? "rows" = some (.array rows.rows)

/-- The identifier in the body. -/
def id? (r : Request) : Option Json := r.body.member? "request_id"

/-- At which number the body inserts how many rows. -/
def range? (r : Request) : Option (Int × Nat) :=
  match r.body.member? "row_sequencer", r.body.member? "rows" with
  | some (.number (.whole first)), some (.array rows) => some (first, rows.length)
  | _, _ => none

theorem Inserts.range? {r : Request} {rows : Rows} (h : r.Inserts rows) :
    r.range? = some (rows.rowSequencer, rows.rows.length) := by
  simp only [Request.range?, h.rowSequencer, h.rows, Json.ofInt]

end Request

/-! ## The requests of a writer -/

namespace Writer

variable {τ : Type} (w : Writer τ) (requestId : String) (token : Token)

theorem url_opening (mode : WriteMode) :
    (w.request requestId token (.openChannel mode)).url = openingUrl w.baseUrl := rfl

theorem url_insertion (rows : Rows) :
    (w.request requestId token (.insertRows rows)).url = insertionUrl w.baseUrl := rfl

theorem id?_request (ask : Ask) : (w.request requestId token ask).id? = some (.text requestId) := by
  rw [Request.id?, request, Payload.body, Json.member?_ofMembers]
  obtain mode | ⟨_, _, _ | _, _⟩ := ask <;> rfl

theorem names_request (ask : Ask) : (w.request requestId token ask).Names w.target := by
  constructor
  all_goals
    rw [request, Payload.body, Json.member?_ofMembers]
    obtain mode | ⟨_, _, _ | _, _⟩ := ask <;> rfl

theorem inserts_request (rows : Rows) :
    (w.request requestId token (.insertRows rows)).Inserts rows := by
  obtain ⟨clientSequencer, rowSequencer, _ | _, rows⟩ := rows
  all_goals
    constructor
    all_goals
      rw [request, Payload.body, Json.member?_ofMembers]
      rfl

end Writer

end KvBridge.Stream
