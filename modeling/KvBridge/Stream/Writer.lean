import KvBridge.Ids
import KvBridge.Message
import KvBridge.Stream.Response
import KvBridge.Stream.Transport
import KvBridge.Timed.Context
import KvBridge.Token

/-!
# Stream writers

A writer opens a channel to the ingestion service and inserts the messages of a batch as rows. Rows
are numbered by where the channel stands: the service says at which number it starts, and every
row that was taken moves it on. Only one caller at a time has the channel.

The numbers of rows are whole numbers without bounds. They are those of the service as long as what
it starts at and the rows that it has taken add up to a number of 64 bits with a sign.

* `Writer.connect`, `Writer.close`: opening and giving up the channel;
* `Writer.write`: inserting a batch;
* `receive`, `OpenChannelResponse.opened`, `RegisterBlobResponse.taken`: what an answer must be to
  count as success.
-/

namespace KvBridge.Stream

open Json (Shape)

/-- An open channel: what the service said when it was opened, and the number of the next row. -/
structure Session where
  setup : OpenChannelResponse
  rowSequencer : Int
deriving DecidableEq, Repr

/-- Where a writer stands. -/
inductive ChannelState
  | disconnected
  | opened (s : Session)
  | closed
deriving DecidableEq, Repr

/-- The open channel. -/
def ChannelState.session? : ChannelState → Option Session
  | .opened s => some s
  | .disconnected | .closed => none

/-- The state that the calls of a writer work on. -/
structure Line (τ : Type) where
  channel : ChannelState
  ids : IdSource
  now : Reading
  transport : τ

/-! ## Judging answers -/

/-- An answer in full: the status is that of success and the body has the shape. -/
def receive {α : Type} (shape : Shape α) (r : Response) : Except Cause α :=
  if r.status ≠ 200 then
    .error (.text ("received unexpected stream response status: " ++ toString r.status))
  else
    match shape.read r.body with
    | .error _ =>
      .error (.context "failed to decode stream HTTP response" (.text "not of the expected shape"))
    | .ok a => .ok a

/-- Requires the status code of success. -/
def checkCode (code : Int) (message : String) : Except Cause Unit :=
  if code = statusSuccess then .ok ()
  else
    .error (.text ("received unexpected stream response code: " ++ toString code ++
      " (" ++ message ++ ")"))

/-- The channel that was opened. -/
def OpenChannelResponse.opened (r : OpenChannelResponse) : Except Cause Session := do
  checkCode r.statusCode r.message
  return ⟨r, r.rowSequencer⟩

/-- Requires that all rows were taken. -/
def RegisterBlobResponse.taken (r : RegisterBlobResponse) : Except Cause Unit := do
  checkCode r.statusCode r.message
  match r.failedChannels with
  | [] => return
  | c :: _ =>
    throw (.text ("channel " ++ c.channel ++ " rejected rows with status code " ++
      toString c.statusCode))

/-! ## Rows -/

/-- The contents of messages as JSON values, from place `index` on. -/
def documentsFrom (index : Nat) : List Message → Except Failure (List Json)
  | [] => .ok []
  | m :: ms =>
    match m.document with
    | .error _ =>
      .error (.resolve index (.context "failed to get message structure" (.text "not a JSON text")))
    | .ok v => (documentsFrom (index + 1) ms).map (v :: ·)

/-- The contents of a batch as JSON values. -/
def documents (batch : List Message) : Except Failure (List Json) := documentsFrom 0 batch

/-- Rows at the place where a channel stands. -/
def Session.place (s : Session) (rows : List Json) : Rows :=
  ⟨s.setup.clientSequencer, s.rowSequencer, s.setup.offsetToken, rows⟩

/-- The channel after so many rows. -/
def Session.advance (s : Session) (rows : Nat) : Session :=
  { s with rowSequencer := s.rowSequencer + rows }

/-! ## Writers -/

/-- A writer. -/
structure Writer (τ : Type) where
  target : Target
  baseUrl : String
  requestTimeout : Duration
  signer : Signer
  transport : Transport τ

namespace Writer

/-- A text without the slashes at its end. -/
def withoutSlashes (s : String) : String :=
  String.ofList (s.toList.reverse.dropWhile (· == '/')).reverse

/-- The writer of a configuration, with a signer and a transport. -/
def ofConfig {τ : Type} (config : StreamConfig) (signer : Signer) (transport : Transport τ) :
    Writer τ where
  target := .ofConfig config
  baseUrl := withoutSlashes config.baseUrl
  requestTimeout := config.requestTimeout
  signer := signer
  transport := transport

variable {τ α : Type} (w : Writer τ)

/-- The channel, as it stands. -/
def channel : Call (Line τ) ChannelState := ExceptT.lift (Timed.look Line.channel)

/-- Changes where the writer stands. -/
def enter (state : ChannelState) : Call (Line τ) Unit :=
  ExceptT.lift (Timed.change fun l => { l with channel := state })

/-- A line in the log. -/
def announce (text : String) : Call (Line τ) Unit := ExceptT.lift (notice .info text)

/-- The next identifier and the reading of the clock. -/
def draw : Call (Line τ) (String × Reading) :=
  ExceptT.lift (Timed.act fun l =>
    let (id, ids) := l.ids.draw
    ((id, l.now), { l with ids }))

/-- The request that asks for something under an identifier and with a token. -/
def request (requestId : String) (token : Token) (ask : Ask) : Request where
  url := w.baseUrl ++ ask.path
  token := token.render
  body := Payload.body ⟨requestId, w.target, ask⟩

/-- Takes a request to the service, within the caller's deadline or else the configured one. -/
def post (ctx : Context) (operation : String) (request : Request) : Call (Line τ) Response :=
  let sent := (w.transport.post request).zoom Line.transport fun t l => { l with transport := t }
  (ctx.orTimeout w.requestTimeout).within do
    return (← sent).mapError (Failure.transport operation none)

/-- Asks the service and judges its answer. Each request has an identifier and a token of its
own. -/
def exchange (ctx : Context) (operation : String) (ask : Ask) (shape : Shape α) :
    Call (Line τ) α := do
  let (requestId, now) ← draw
  let token ← ExceptT.mk (.done (w.signer.mint now))
  let r ← w.post ctx operation (w.request requestId token ask)
  ExceptT.mk (.done ((receive shape r).mapError (.transport operation none)))

/-- Opens the channel unless it is open. -/
def connect (ctx : Context) : Call (Line τ) Unit :=
  observed "stream" "open_channel" <| Timed.alone <| ExceptT.run do
    match ← channel with
    | .opened _ => return
    | .disconnected | .closed =>
      let r ← w.exchange ctx "open_channel" (.openChannel .cloudStorage)
        OpenChannelResponse.record.shape
      match r.opened with
      | .error cause => throw (.transport "open_channel" none cause)
      | .ok session =>
        announce "channel opened"
        enter (.opened session)

/-- Inserts the messages of a batch as rows. All of them must be JSON texts. -/
def write (ctx : Context) (batch : List Message) : Call (Line τ) Unit :=
  observed "stream" "insert_rows" <| Timed.alone <| ExceptT.run do
    match ← channel with
    | .disconnected | .closed => throw .notConnected
    | .opened session =>
      let rows ← ExceptT.mk (.done (documents batch))
      if rows.isEmpty then return
      let r ← w.exchange ctx "insert_rows" (.insertRows (session.place rows))
        RegisterBlobResponse.record.shape
      match r.taken with
      | .error cause => throw (.transport "insert_rows" none cause)
      | .ok () => enter (.opened (session.advance rows.length))

/-- Gives up the channel. The service is not told. -/
def close : Call (Line τ) Unit :=
  Timed.alone <| ExceptT.run do
    match ← channel with
    | .opened _ =>
      enter .closed
      announce "channel closed"
    | .disconnected | .closed => return

/-- A writer as text. -/
def render : String :=
  "StreamWriter \x7b base_url: " ++ Text.quoted w.baseUrl ++ ", channel: " ++
    Text.quoted w.target.channel ++ ", .. \x7d"

end Writer

end KvBridge.Stream
