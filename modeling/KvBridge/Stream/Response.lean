import KvBridge.Config

/-!
# Answers of the ingestion service

The service answers with JSON objects. Members that are missing have a default and members of
other names are passed over, at every level. A status code of zero reports success.

* `OpenChannelResponse`: a channel was opened;
* `RegisterBlobResponse`: rows were taken, with the status of each channel in each part;
* `RegisterBlobResponse.failedChannels`: the channels that refused their rows.
-/

namespace KvBridge.Stream

open Json (Record Field Shape)

/-- The status code of success. -/
def statusSuccess : Int := 0

/-- What the service says about a column of the table. -/
structure ColumnMetadata where
  name : String := ""
  collation : Option String := none
  columnType : String := ""
  logicalType : String := ""
  physicalType : String := ""
  precision : Option Int := none
  scale : Option Int := none
  byteLength : Option Int := none
  length : Option Int := none
  nullable : Bool := false
deriving DecidableEq, Repr

def ColumnMetadata.record : Record ColumnMetadata where
  name := "ColumnMetadata"
  blank := {}
  fields := [
    .defaulted "name" Shape.text fun s c => { c with name := s },
    .defaulted "collation" (Shape.optional Shape.text) fun s c => { c with collation := s },
    .defaulted "type" Shape.text fun s c => { c with columnType := s },
    .defaulted "logical_type" Shape.text fun s c => { c with logicalType := s },
    .defaulted "physical_type" Shape.text fun s c => { c with physicalType := s },
    .defaulted "precision" (Shape.optional Shape.signed64) fun n c => { c with precision := n },
    .defaulted "scale" (Shape.optional Shape.signed64) fun n c => { c with scale := n },
    .defaulted "byte_length" (Shape.optional Shape.signed64) fun n c => { c with byteLength := n },
    .defaulted "length" (Shape.optional Shape.signed64) fun n c => { c with length := n },
    .defaulted "nullable" Shape.flag fun b c => { c with nullable := b }]

/-- The answer to the opening of a channel. -/
structure OpenChannelResponse where
  statusCode : Int := 0
  message : String := ""
  database : String := ""
  schema : String := ""
  table : String := ""
  channel : String := ""
  clientSequencer : Int := 0
  rowSequencer : Int := 0
  offsetToken : Option String := none
  tableColumns : List ColumnMetadata := []
  encryptionKey : Option String := none
  encryptionKeyId : Option Int := none
deriving DecidableEq, Repr

def OpenChannelResponse.record : Record OpenChannelResponse where
  name := "OpenChannelResponse"
  blank := {}
  fields := [
    .defaulted "status_code" Shape.signed64 fun n r => { r with statusCode := n },
    .defaulted "message" Shape.text fun s r => { r with message := s },
    .defaulted "database" Shape.text fun s r => { r with database := s },
    .defaulted "schema" Shape.text fun s r => { r with schema := s },
    .defaulted "table" Shape.text fun s r => { r with table := s },
    .defaulted "channel" Shape.text fun s r => { r with channel := s },
    .defaulted "client_sequencer" Shape.signed64 fun n r => { r with clientSequencer := n },
    .defaulted "row_sequencer" Shape.signed64 fun n r => { r with rowSequencer := n },
    .defaulted "offset_token" (Shape.optional Shape.text) fun s r => { r with offsetToken := s },
    .defaulted "table_columns" (Shape.list ColumnMetadata.record.shape)
      fun cs r => { r with tableColumns := cs },
    .defaulted "encryption_key" (Shape.optional Shape.text)
      fun s r => { r with encryptionKey := s },
    .defaulted "encryption_key_id" (Shape.optional Shape.signed64)
      fun n r => { r with encryptionKeyId := n }]

/-- The status of one channel in a part. -/
structure ChannelStatus where
  statusCode : Int := 0
  channel : String := ""
  clientSequencer : Int := 0
deriving DecidableEq, Repr

def ChannelStatus.record : Record ChannelStatus where
  name := "ChannelRegisterStatus"
  blank := {}
  fields := [
    .defaulted "status_code" Shape.signed64 fun n s => { s with statusCode := n },
    .defaulted "channel" Shape.text fun t s => { s with channel := t },
    .defaulted "client_sequencer" Shape.signed64 fun n s => { s with clientSequencer := n }]

/-- The status of one part, which belongs to a table. -/
structure ChunkStatus where
  channels : List ChannelStatus := []
  database : String := ""
  schema : String := ""
  table : String := ""
deriving DecidableEq, Repr

def ChunkStatus.record : Record ChunkStatus where
  name := "ChunkRegisterStatus"
  blank := {}
  fields := [
    .defaulted "channels" (Shape.list ChannelStatus.record.shape)
      fun cs s => { s with channels := cs },
    .defaulted "database" Shape.text fun t s => { s with database := t },
    .defaulted "schema" Shape.text fun t s => { s with schema := t },
    .defaulted "table" Shape.text fun t s => { s with table := t }]

/-- The status of the parts that were sent together. -/
structure BlobStatus where
  chunks : List ChunkStatus := []
deriving DecidableEq, Repr

def BlobStatus.record : Record BlobStatus where
  name := "BlobRegisterStatus"
  blank := {}
  fields := [.defaulted "chunks" (Shape.list ChunkStatus.record.shape) fun cs _ => ⟨cs⟩]

/-- The answer to an insertion of rows. -/
structure RegisterBlobResponse where
  statusCode : Int := 0
  message : String := ""
  blobs : List BlobStatus := []
deriving DecidableEq, Repr

namespace RegisterBlobResponse

def record : Record RegisterBlobResponse where
  name := "RegisterBlobResponse"
  blank := {}
  fields := [
    .defaulted "status_code" Shape.signed64 fun n r => { r with statusCode := n },
    .defaulted "message" Shape.text fun s r => { r with message := s },
    .defaulted "blobs" (Shape.list BlobStatus.record.shape) fun bs r => { r with blobs := bs }]

/-- The status of every channel, in the order of the answer. -/
def channels (r : RegisterBlobResponse) : List ChannelStatus :=
  r.blobs.flatMap fun b => b.chunks.flatMap fun c => c.channels

/-- The channels that report no success. -/
def failedChannels (r : RegisterBlobResponse) : List ChannelStatus :=
  r.channels.filter (·.statusCode != statusSuccess)

end RegisterBlobResponse

end KvBridge.Stream
