import KvBridge.Proofs.Json.Telling
import KvBridge.Stream.Response

/-!
# Answers are read from every document that tells them

The service may leave out what has its default, may order members as it likes, and may say more than
this program knows, at every level of an answer. Whichever way it tells an answer, every text of the
document is read as exactly that answer (`answers_read_from_any_telling`). So the channels that
refused their rows are the same, in the same order: those for which the document carries a status
code other than zero, in the order of the document.

* `OpenChannelResponse.telling`, `RegisterBlobResponse.telling`: the names that the parts of an
  answer go by, and how each is told;
* `channelDocs`, `reportsFailure`: the parts of a document that stand for channels, and those of
  them that report a failure.
-/

namespace KvBridge.Stream

open Json (Telling Slot Doc Record Field Shape readDoc maxDepth)
open Json.Telling (readBy_text readBy_flag readBy_signed64 readBy_optional_text
  readBy_optional_signed64 natural_text natural_flag natural_signed64)

/-! ## How answers are told -/

def ColumnMetadata.slots : List (Slot ColumnMetadata) := [
  ⟨"name", .text, (·.name)⟩,
  ⟨"collation", .optional .text, (·.collation)⟩,
  ⟨"type", .text, (·.columnType)⟩,
  ⟨"logical_type", .text, (·.logicalType)⟩,
  ⟨"physical_type", .text, (·.physicalType)⟩,
  ⟨"precision", .optional .signed64, (·.precision)⟩,
  ⟨"scale", .optional .signed64, (·.scale)⟩,
  ⟨"byte_length", .optional .signed64, (·.byteLength)⟩,
  ⟨"length", .optional .signed64, (·.length)⟩,
  ⟨"nullable", .flag, (·.nullable)⟩]

def ColumnMetadata.telling : Telling ColumnMetadata := .record {} slots

def OpenChannelResponse.slots : List (Slot OpenChannelResponse) := [
  ⟨"status_code", .signed64, (·.statusCode)⟩,
  ⟨"message", .text, (·.message)⟩,
  ⟨"database", .text, (·.database)⟩,
  ⟨"schema", .text, (·.schema)⟩,
  ⟨"table", .text, (·.table)⟩,
  ⟨"channel", .text, (·.channel)⟩,
  ⟨"client_sequencer", .signed64, (·.clientSequencer)⟩,
  ⟨"row_sequencer", .signed64, (·.rowSequencer)⟩,
  ⟨"offset_token", .optional .text, (·.offsetToken)⟩,
  ⟨"table_columns", .list ColumnMetadata.telling, (·.tableColumns)⟩,
  ⟨"encryption_key", .optional .text, (·.encryptionKey)⟩,
  ⟨"encryption_key_id", .optional .signed64, (·.encryptionKeyId)⟩]

def OpenChannelResponse.telling : Telling OpenChannelResponse := .record {} slots

def ChannelStatus.slots : List (Slot ChannelStatus) := [
  ⟨"status_code", .signed64, (·.statusCode)⟩,
  ⟨"channel", .text, (·.channel)⟩,
  ⟨"client_sequencer", .signed64, (·.clientSequencer)⟩]

def ChannelStatus.telling : Telling ChannelStatus := .record {} slots

def ChunkStatus.slots : List (Slot ChunkStatus) := [
  ⟨"channels", .list ChannelStatus.telling, (·.channels)⟩,
  ⟨"database", .text, (·.database)⟩,
  ⟨"schema", .text, (·.schema)⟩,
  ⟨"table", .text, (·.table)⟩]

def ChunkStatus.telling : Telling ChunkStatus := .record {} slots

def BlobStatus.slots : List (Slot BlobStatus) := [
  ⟨"chunks", .list ChunkStatus.telling, (·.chunks)⟩]

def BlobStatus.telling : Telling BlobStatus := .record {} slots

def RegisterBlobResponse.slots : List (Slot RegisterBlobResponse) := [
  ⟨"status_code", .signed64, (·.statusCode)⟩,
  ⟨"message", .text, (·.message)⟩,
  ⟨"blobs", .list BlobStatus.telling, (·.blobs)⟩]

def RegisterBlobResponse.telling : Telling RegisterBlobResponse := .record {} slots

/-! ## Natural documents -/

theorem ColumnMetadata.natural : telling.Natural := by
  refine .record ?_ {}
  simp only [slots, List.forall_mem_cons]
  exact ⟨natural_text, natural_text.optional, natural_text, natural_text, natural_text,
    natural_signed64.optional, natural_signed64.optional, natural_signed64.optional,
    natural_signed64.optional, natural_flag, nofun⟩

theorem OpenChannelResponse.natural : telling.Natural := by
  refine .record ?_ {}
  simp only [slots, List.forall_mem_cons]
  exact ⟨natural_signed64, natural_text, natural_text, natural_text, natural_text, natural_text,
    natural_signed64, natural_signed64, natural_text.optional, (ColumnMetadata.natural).list,
    natural_text.optional, natural_signed64.optional, nofun⟩

theorem ChannelStatus.natural : telling.Natural := by
  refine .record ?_ {}
  simp only [slots, List.forall_mem_cons]
  exact ⟨natural_signed64, natural_text, natural_signed64, nofun⟩

theorem ChunkStatus.natural : telling.Natural := by
  refine .record ?_ {}
  simp only [slots, List.forall_mem_cons]
  exact ⟨(ChannelStatus.natural).list, natural_text, natural_text, natural_text, nofun⟩

theorem BlobStatus.natural : telling.Natural := by
  refine .record ?_ {}
  simp only [slots, List.forall_mem_cons]
  exact ⟨(ChunkStatus.natural).list, nofun⟩

theorem RegisterBlobResponse.natural : telling.Natural := by
  refine .record ?_ {}
  simp only [slots, List.forall_mem_cons]
  exact ⟨natural_signed64, natural_text, (BlobStatus.natural).list, nofun⟩

/-! ## Reading -/

theorem ColumnMetadata.mirrors : record.Mirrors 0 slots where
  fields := by
    refine .cons readBy_text (fun _ _ => rfl) ?_ ?_ <|
      .cons readBy_optional_text (fun _ _ => rfl) ?_ ?_ <|
      .cons readBy_text (fun _ _ => rfl) ?_ ?_ <|
      .cons readBy_text (fun _ _ => rfl) ?_ ?_ <|
      .cons readBy_text (fun _ _ => rfl) ?_ ?_ <|
      .cons readBy_optional_signed64 (fun _ _ => rfl) ?_ ?_ <|
      .cons readBy_optional_signed64 (fun _ _ => rfl) ?_ ?_ <|
      .cons readBy_optional_signed64 (fun _ _ => rfl) ?_ ?_ <|
      .cons readBy_optional_signed64 (fun _ _ => rfl) ?_ ?_ <|
      .cons readBy_flag (fun _ _ => rfl) ?_ ?_ .nil
    -- What is left of each field: no other has its name, and it changes nothing that another shows.
    all_goals try simp only [List.forall_mem_cons]
    all_goals and_intros
    all_goals first | exact Field.keeps_defaulted fun _ _ => rfl | decide | exact nofun
  blank := by
    simp only [slots, List.forall_mem_cons]
    and_intros
    all_goals first | rfl | exact nofun
  ext := by
    rintro ⟨⟩ ⟨⟩ same
    simp only [slots, List.forall_mem_cons] at same
    obtain ⟨rfl, rfl, rfl, rfl, rfl, rfl, rfl, rfl, rfl, rfl, -⟩ := same
    rfl

theorem OpenChannelResponse.mirrors : record.Mirrors 2 slots where
  fields := by
    refine .cons readBy_signed64 (fun _ _ => rfl) ?_ ?_ <|
      .cons readBy_text (fun _ _ => rfl) ?_ ?_ <|
      .cons readBy_text (fun _ _ => rfl) ?_ ?_ <|
      .cons readBy_text (fun _ _ => rfl) ?_ ?_ <|
      .cons readBy_text (fun _ _ => rfl) ?_ ?_ <|
      .cons readBy_text (fun _ _ => rfl) ?_ ?_ <|
      .cons readBy_signed64 (fun _ _ => rfl) ?_ ?_ <|
      .cons readBy_signed64 (fun _ _ => rfl) ?_ ?_ <|
      .cons readBy_optional_text (fun _ _ => rfl) ?_ ?_ <|
      .cons (ColumnMetadata.mirrors).readBy.list (fun _ _ => rfl) ?_ ?_ <|
      .cons readBy_optional_text (fun _ _ => rfl) ?_ ?_ <|
      .cons readBy_optional_signed64 (fun _ _ => rfl) ?_ ?_ .nil
    all_goals try simp only [List.forall_mem_cons]
    all_goals and_intros
    all_goals first | exact Field.keeps_defaulted fun _ _ => rfl | decide | exact nofun
  blank := by
    simp only [slots, List.forall_mem_cons]
    and_intros
    all_goals first | rfl | exact nofun
  ext := by
    rintro ⟨⟩ ⟨⟩ same
    simp only [slots, List.forall_mem_cons] at same
    obtain ⟨rfl, rfl, rfl, rfl, rfl, rfl, rfl, rfl, rfl, rfl, rfl, rfl, -⟩ := same
    rfl

theorem ChannelStatus.mirrors : record.Mirrors 0 slots where
  fields := by
    refine .cons readBy_signed64 (fun _ _ => rfl) ?_ ?_ <|
      .cons readBy_text (fun _ _ => rfl) ?_ ?_ <|
      .cons readBy_signed64 (fun _ _ => rfl) ?_ ?_ .nil
    all_goals try simp only [List.forall_mem_cons]
    all_goals and_intros
    all_goals first | exact Field.keeps_defaulted fun _ _ => rfl | decide | exact nofun
  blank := by
    simp only [slots, List.forall_mem_cons]
    exact ⟨rfl, rfl, rfl, nofun⟩
  ext := by
    rintro ⟨⟩ ⟨⟩ same
    simp only [slots, List.forall_mem_cons] at same
    obtain ⟨rfl, rfl, rfl, -⟩ := same
    rfl

theorem ChunkStatus.mirrors : record.Mirrors 2 slots where
  fields := by
    refine .cons (ChannelStatus.mirrors).readBy.list (fun _ _ => rfl) ?_ ?_ <|
      .cons readBy_text (fun _ _ => rfl) ?_ ?_ <|
      .cons readBy_text (fun _ _ => rfl) ?_ ?_ <|
      .cons readBy_text (fun _ _ => rfl) ?_ ?_ .nil
    all_goals try simp only [List.forall_mem_cons]
    all_goals and_intros
    all_goals first | exact Field.keeps_defaulted fun _ _ => rfl | decide | exact nofun
  blank := by
    simp only [slots, List.forall_mem_cons]
    exact ⟨rfl, rfl, rfl, rfl, nofun⟩
  ext := by
    rintro ⟨⟩ ⟨⟩ same
    simp only [slots, List.forall_mem_cons] at same
    obtain ⟨rfl, rfl, rfl, rfl, -⟩ := same
    rfl

theorem BlobStatus.mirrors : record.Mirrors 4 slots where
  fields := .cons (ChunkStatus.mirrors).readBy.list (fun _ _ => rfl) nofun nofun .nil
  blank := List.forall_mem_singleton.2 rfl
  ext := by
    rintro ⟨⟩ ⟨⟩ same
    cases List.forall_mem_singleton.1 same
    rfl

theorem RegisterBlobResponse.mirrors : record.Mirrors 6 slots where
  fields := by
    refine .cons readBy_signed64 (fun _ _ => rfl) ?_ ?_ <|
      .cons readBy_text (fun _ _ => rfl) ?_ ?_ <|
      .cons (BlobStatus.mirrors).readBy.list (fun _ _ => rfl) ?_ ?_ .nil
    all_goals try simp only [List.forall_mem_cons]
    all_goals and_intros
    all_goals first | exact Field.keeps_defaulted fun _ _ => rfl | decide | exact nofun
  blank := by
    simp only [slots, List.forall_mem_cons]
    exact ⟨rfl, rfl, rfl, nofun⟩
  ext := by
    rintro ⟨⟩ ⟨⟩ same
    simp only [slots, List.forall_mem_cons] at same
    obtain ⟨rfl, rfl, rfl, -⟩ := same
    rfl

/-! ## Channels -/

/-- The parts of a document that stand for channels, in its order. -/
def channelDocs (d : Doc) : List Doc :=
  (RegisterBlobResponse.record.itemsAt "blobs" d).flatMap fun blob =>
    (BlobStatus.record.itemsAt "chunks" blob).flatMap fun chunk =>
      ChunkStatus.record.itemsAt "channels" chunk

/-- The part of a channel carries a status code other than zero. -/
def reportsFailure (d : Doc) : Bool :=
  match ChannelStatus.record.part? "status_code" d with
  | some (.number n) => n != .ofInt statusSuccess
  | _ => false

/-- The channels of an answer are told in its order. -/
theorem tells_channelDocs {r : RegisterBlobResponse} {d : Doc}
    (h : RegisterBlobResponse.telling.Tells r d) :
    List.Forall₂ ChannelStatus.telling.Tells r.channels (channelDocs d) := by
  have blobs : List.Forall₂ BlobStatus.telling.Tells r.blobs
      (RegisterBlobResponse.record.itemsAt "blobs" d) :=
    (RegisterBlobResponse.mirrors).tells_itemsAt h (.tail _ (.tail _ (.head _)))
  have chunks {b : BlobStatus} {d : Doc} (h : BlobStatus.telling.Tells b d) :
      List.Forall₂ ChunkStatus.telling.Tells b.chunks (BlobStatus.record.itemsAt "chunks" d) :=
    (BlobStatus.mirrors).tells_itemsAt h (.head _)
  have channels {c : ChunkStatus} {d : Doc} (h : ChunkStatus.telling.Tells c d) :
      List.Forall₂ ChannelStatus.telling.Tells c.channels
        (ChunkStatus.record.itemsAt "channels" d) :=
    (ChunkStatus.mirrors).tells_itemsAt h (.head _)
  exact List.rel_flatMap blobs fun _ _ told => List.rel_flatMap (chunks told) fun _ _ => channels

/-- The part of a channel reports a failure exactly if the channel has another status code than that
of success, whether the code stands there or is left out. -/
theorem reportsFailure_eq {c : ChannelStatus} {d : Doc} (h : ChannelStatus.telling.Tells c d) :
    reportsFailure d = (c.statusCode != statusSuccess) := by
  have code := Telling.part?_of_tells ChannelStatus.record h (ChannelStatus.mirrors).fields.nodup
    (List.mem_cons_self ..)
  rw [reportsFailure]
  obtain ⟨_, found, ⟨low, high⟩, rfl⟩ | ⟨none, default⟩ := code
  · rw [found]
    refine Bool.eq_iff_iff.2 ?_
    rw [bne_iff_ne, bne_iff_ne]
    exact Json.Numeral.ofInt_injective.ne_iff
  · rw [none, show c.statusCode = statusSuccess from default]
    rfl

/-! ## Answers -/

theorem OpenChannelResponse.conveys : telling.Conveys record.shape := by
  have reads : telling.ReadBy record.shape 3 := mirrors.readBy
  exact reads.conveys (by decide) natural

theorem RegisterBlobResponse.conveys : telling.Conveys record.shape := by
  have reads : telling.ReadBy record.shape 7 := mirrors.readBy
  exact reads.conveys (by decide) natural

/-- Whatever document tells an answer, every text of it is read as exactly that answer. The channels
that refused their rows are then told by the parts of the document that report a failure, in the
order of the document. -/
theorem answers_read_from_any_telling :
    OpenChannelResponse.telling.Conveys OpenChannelResponse.record.shape ∧
      RegisterBlobResponse.telling.Conveys RegisterBlobResponse.record.shape ∧
      ∀ r d, RegisterBlobResponse.telling.Tells r d →
        List.Forall₂ ChannelStatus.telling.Tells r.failedChannels
          ((channelDocs d).filter reportsFailure) := by
  refine ⟨OpenChannelResponse.conveys, RegisterBlobResponse.conveys, fun r d tells =>
    List.rel_filter (fun c part told => ?_) (tells_channelDocs tells)⟩
  change (c.statusCode != statusSuccess) = true ↔ reportsFailure part = true
  rw [reportsFailure_eq told]

/-- A column with a null, behind a member that is not known. -/
def sparseColumn : Doc :=
  .object [.named (.ok "ordinal") (.number (.ofInt 1)), .named (.ok "collation") .null,
    .named (.ok "type") (.text (.ok "NUMBER(38,0)"))] none

/-- An opened channel, with its members in another order. -/
def sparseOpening : Doc :=
  .object [.named (.ok "table_columns") (.array [sparseColumn] none),
    .named (.ok "row_sequencer") (.number (.ofInt 10))] none

/-- A channel that refuses its rows, with its members in another order. -/
def failingPart : Doc :=
  .object [.named (.ok "channel") (.text (.ok "b")),
    .named (.ok "status_code") (.number (.ofInt 20))] none

/-- The part of one channel is empty, and the other channel refuses its rows. -/
def sparseChunk : Doc :=
  .object [.named (.ok "rows") (.array [.null] none),
    .named (.ok "channels") (.array [.object [] none, failingPart] none),
    .named (.ok "table") (.text (.ok "T"))] none

def sparseReply : Doc :=
  .object [.named (.ok "type") (.object [] none), .named (.ok "blobs")
    (.array [.object [.named (.ok "chunks") (.array [sparseChunk] none)] none] none)] none

/-- A column and two channels are read from documents with members that are not known and without
most of those that are. The answer that has all defaults is read from its natural document. -/
theorem answers_read_from_any_telling_of_sparse_replies :
    let column : ColumnMetadata := { columnType := "NUMBER(38,0)" }
    let channels : List ChannelStatus := [{}, { statusCode := 20, channel := "b" }]
    OpenChannelResponse.record.shape.read sparseOpening.written =
        .ok { rowSequencer := 10, tableColumns := [column] } ∧
      RegisterBlobResponse.record.shape.read sparseReply.written =
        .ok { blobs := [{ chunks := [{ channels, table := "T" }] }] } ∧
      (channelDocs sparseReply).filter reportsFailure = [failingPart] ∧
      List.Forall₂ ChannelStatus.telling.Tells (channels.filter (·.statusCode != 0))
        [failingPart] ∧
      RegisterBlobResponse.record.shape.read (RegisterBlobResponse.telling.document {}).written =
        .ok {} := by
  intro column channels
  obtain ⟨opening, insertion, failures⟩ := answers_read_from_any_telling
  have toldColumn : ColumnMetadata.telling.Tells column sparseColumn := by
    refine ⟨_, _, _, rfl, (List.perm_append_singleton _ _).symm, ?_,
      List.forall_mem_singleton.2 (Json.isStrange_of_isWhole (by decide) rfl)⟩
    exact .left rfl <| .told rfl <| .told rfl <| .left rfl <| .left rfl <| .left rfl <|
      .left rfl <| .left rfl <| .left rfl <| .left rfl .nil
  have toldOpening : OpenChannelResponse.telling.Tells
      { rowSequencer := 10, tableColumns := [column] } sparseOpening := by
    refine ⟨_, [_, _], [], rfl, .swap .., ?_, List.forall_mem_nil _⟩
    exact .left rfl <| .left rfl <| .left rfl <| .left rfl <| .left rfl <| .left rfl <|
      .left rfl <| .told ⟨by decide, rfl⟩ <| .left rfl <|
      .told ⟨_, rfl, .cons toldColumn .nil⟩ <| .left rfl <| .left rfl .nil
  have toldEmpty : ChannelStatus.telling.Tells {} (.object [] none) :=
    ⟨[], [], [], rfl, .nil, .left rfl (.left rfl (.left rfl .nil)), List.forall_mem_nil _⟩
  have toldFailing :
      ChannelStatus.telling.Tells { statusCode := 20, channel := "b" } failingPart :=
    ⟨_, _, [], rfl, .swap .., .told ⟨by decide, rfl⟩ (.told rfl (.left rfl .nil)),
      List.forall_mem_nil _⟩
  have toldChunk : ChunkStatus.telling.Tells { channels, table := "T" } sparseChunk :=
    ⟨_, _, _, rfl, (List.perm_append_singleton _ _).symm,
      .told ⟨_, rfl, .cons toldEmpty (.cons toldFailing .nil)⟩
        (.left rfl (.left rfl (.told rfl .nil))),
      List.forall_mem_singleton.2 (Json.isStrange_of_isWhole (by decide) rfl)⟩
  have toldBlob : BlobStatus.telling.Tells { chunks := [_] } _ :=
    ⟨_, _, [], rfl, .refl _, .told ⟨_, rfl, .cons toldChunk .nil⟩ .nil, List.forall_mem_nil _⟩
  have toldReply : RegisterBlobResponse.telling.Tells
      { blobs := [{ chunks := [{ channels, table := "T" }] }] } sparseReply :=
    ⟨_, _, _, rfl, (List.perm_append_singleton _ _).symm,
      .left rfl (.left rfl (.told ⟨_, rfl, .cons toldBlob .nil⟩ .nil)),
      List.forall_mem_singleton.2 (Json.isStrange_of_isWhole (by decide) rfl)⟩
  have fits : RegisterBlobResponse.telling.Fits {} := by
    simp [RegisterBlobResponse.telling, RegisterBlobResponse.slots, Telling.record, Telling.list,
      Telling.text, Telling.signed64]
  obtain ⟨natural, whole⟩ := insertion.natural {} fits
  have failing : (channelDocs sparseReply).filter reportsFailure = [failingPart] := rfl
  refine ⟨opening.written _ _ toldOpening rfl, insertion.written _ _ toldReply rfl, failing, ?_,
    insertion.written _ _ natural whole⟩
  rw [← failing]
  exact failures _ _ toldReply

end KvBridge.Stream
