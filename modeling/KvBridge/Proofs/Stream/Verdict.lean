import KvBridge.Proofs.Stream.Delivery
import KvBridge.Proofs.Stream.Identity

/-!
# When an insertion is accepted

The reply to an insertion has a status for the whole and one for each channel of each chunk of each
blob. It is clean (`Reply.Clean`) if it is delivered, received in full, and every one of these
reports success. An insertion is accepted exactly if a clean reply comes in time
(`Writer.write_judged`); else it fails for the first thing that is wrong with the reply
(`Reply.Fault`), where a channel that refused its rows is the first one in the order of the answer.

* `RegisterBlobResponse.FirstRejected`: the first channel that refused its rows;
* `Reply.clean_iff`, `Reply.fault_of_insertion`: what the checks of an insertion find.
-/

namespace KvBridge.Stream

/-! ## Places in an answer -/

/-- Where a channel stands in an answer. -/
structure Place where
  blob : Nat
  chunk : Nat
  channel : Nat

/-- One place comes before another: by the blob, then the chunk, then the channel. -/
def Place.Before (p q : Place) : Prop :=
  p.blob < q.blob ∨ p.blob = q.blob ∧
    (p.chunk < q.chunk ∨ p.chunk = q.chunk ∧ p.channel < q.channel)

/-- A search through a list finds what it finds at some place, and nothing at those before. -/
theorem place_of_findSome? {α β : Type} {f : α → Option β} {xs : List α} {b : β}
    (h : xs.findSome? f = some b) :
    ∃ (i : Nat) (x : α), xs[i]? = some x ∧ f x = some b ∧
      ∀ j < i, ∀ y, xs[j]? = some y → f y = none := by
  obtain ⟨before, x, after, rfl, hx, none⟩ := List.findSome?_eq_some_iff.1 h
  refine ⟨before.length, x, by simp, hx, fun j hj y hy => none y ?_⟩
  rw [List.getElem?_append_left hj] at hy
  exact List.mem_of_getElem? hy

namespace RegisterBlobResponse

variable {a : RegisterBlobResponse}

/-- The status of the channel at a place. -/
def at? (a : RegisterBlobResponse) (p : Place) : Option ChannelStatus := do
  (← (← a.blobs[p.blob]?).chunks[p.chunk]?).channels[p.channel]?

/-- Every channel reports success. -/
def AllTaken (a : RegisterBlobResponse) : Prop :=
  ∀ p c, a.at? p = some c → c.statusCode = statusSuccess

/-- The channel at a place reports no success, and all before it do. -/
structure FirstRejected (a : RegisterBlobResponse) (p : Place) (c : ChannelStatus) : Prop where
  stands : a.at? p = some c
  rejects : c.statusCode ≠ statusSuccess
  first : ∀ q c', q.Before p → a.at? q = some c' → c'.statusCode = statusSuccess

theorem at?_eq_some_iff {p : Place} {c : ChannelStatus} :
    a.at? p = some c ↔ ∃ blob chunk, a.blobs[p.blob]? = some blob ∧
      blob.chunks[p.chunk]? = some chunk ∧ chunk.channels[p.channel]? = some c := by
  simp only [at?, Option.bind_eq_bind, Option.bind_eq_some_iff]
  constructor
  · rintro ⟨blob, hb, chunk, hk, hc⟩
    exact ⟨blob, chunk, hb, hk, hc⟩
  · rintro ⟨blob, chunk, hb, hk, hc⟩
    exact ⟨blob, hb, chunk, hk, hc⟩

theorem mem_channels {c : ChannelStatus} : c ∈ a.channels ↔ ∃ p, a.at? p = some c := by
  simp only [channels, List.mem_flatMap, at?_eq_some_iff]
  constructor
  · rintro ⟨blob, hb, chunk, hk, hc⟩
    obtain ⟨i, hi⟩ := List.mem_iff_getElem?.1 hb
    obtain ⟨j, hj⟩ := List.mem_iff_getElem?.1 hk
    obtain ⟨k, hc⟩ := List.mem_iff_getElem?.1 hc
    exact ⟨⟨i, j, k⟩, blob, chunk, hi, hj, hc⟩
  · rintro ⟨p, blob, chunk, hi, hj, hc⟩
    exact ⟨blob, List.mem_of_getElem? hi, chunk, List.mem_of_getElem? hj, List.mem_of_getElem? hc⟩

theorem failedChannels_eq_nil_iff : a.failedChannels = [] ↔ a.AllTaken := by
  simp only [failedChannels, List.filter_eq_nil_iff, bne_iff_ne, ne_eq, Decidable.not_not,
    mem_channels, AllTaken]
  exact ⟨fun h p c hp => h c ⟨p, hp⟩, fun h c ⟨p, hp⟩ => h p c hp⟩

theorem firstRejected_of_failedChannels {c : ChannelStatus} {cs : List ChannelStatus}
    (h : a.failedChannels = c :: cs) : ∃ p, a.FirstRejected p c := by
  have found : a.failedChannels.head? = some c := by rw [h, List.head?_cons]
  rw [failedChannels, List.head?_filter, channels, List.find?_flatMap] at found
  -- one search for each level of the answer, and what each has passed over
  obtain ⟨i, blob, hblob, found, blobs⟩ := place_of_findSome? found
  rw [List.find?_flatMap] at found
  obtain ⟨j, chunk, hchunk, found, chunks⟩ := place_of_findSome? found
  rw [List.find?_eq_findSome?_guard] at found
  obtain ⟨k, channel, hchannel, found, channels⟩ := place_of_findSome? found
  obtain ⟨rfl, rejects⟩ := Option.guard_eq_some_iff.1 found
  refine ⟨⟨i, j, k⟩, at?_eq_some_iff.2 ⟨blob, chunk, hblob, hchunk, hchannel⟩,
    bne_iff_ne.1 rejects, fun q c' before hq => ?_⟩
  obtain ⟨blob', chunk', hblob', hchunk', hc'⟩ := at?_eq_some_iff.1 hq
  have passed : ¬ (c'.statusCode != statusSuccess) = true := by
    rcases before with lt | ⟨rfl, lt | ⟨rfl, lt⟩⟩
    · have none := blobs _ lt blob' hblob'
      rw [List.find?_flatMap, List.findSome?_eq_none_iff] at none
      exact List.find?_eq_none.1 (none chunk' (List.mem_of_getElem? hchunk')) c'
        (List.mem_of_getElem? hc')
    · cases hblob.symm.trans hblob'
      exact List.find?_eq_none.1 (chunks _ lt chunk' hchunk') c' (List.mem_of_getElem? hc')
    · cases hblob.symm.trans hblob'
      cases hchunk.symm.trans hchunk'
      have none := channels _ lt c' hc'
      rw [Option.guard_eq_none_iff] at none
      exact Bool.eq_false_iff.1 none
  exact Decidable.not_not.1 fun h => passed (bne_iff_ne.2 h)

/-- What an answer must be for its rows to count as taken. -/
theorem taken_eq_ok_iff : a.taken = .ok () ↔ a.statusCode = statusSuccess ∧ a.AllTaken := by
  rw [← failedChannels_eq_nil_iff, taken, checkCode]
  split
  · rename_i code
    cases a.failedChannels with
    | nil => exact ⟨fun _ => ⟨code, rfl⟩, fun _ => rfl⟩
    | cons c cs =>
      constructor
      · intro h
        cases h
      · rintro ⟨-, ⟨⟩⟩
  · rename_i code
    constructor
    · intro h
      cases h
    · rintro ⟨success, -⟩
      exact absurd success code

end RegisterBlobResponse

namespace Reply

/-- The reply to an insertion is clean: it is received in full, and reports success for the whole
and for every channel. -/
def Clean (r : Reply) : Prop :=
  ∃ a, r.Brings RegisterBlobResponse.record.shape a ∧ a.statusCode = statusSuccess ∧ a.AllTaken

/-- The first thing that is wrong with the reply to an insertion, and the cause that is given
for it. -/
inductive Fault (r : Reply) : Cause → Prop
  /-- It is not delivered. -/
  | transport (words : String) (fails : r.fail = some words) : Fault r (.text words)
  /-- Its status is not that of success. -/
  | status (delivered : r.fail = none) (status : r.response.status ≠ 200) :
      Fault r (.text ("received unexpected stream response status: " ++
        toString r.response.status))
  /-- Its body does not read as an answer. -/
  | decoding (delivered : r.fail = none) (status : r.response.status = 200)
      (undecodable : ∀ a, RegisterBlobResponse.record.shape.read r.response.body ≠ .ok a)
      (why : Cause) : Fault r (.context "failed to decode stream HTTP response" why)
  /-- The whole reports no success. -/
  | code (a : RegisterBlobResponse) (brings : r.Brings RegisterBlobResponse.record.shape a)
      (code : a.statusCode ≠ statusSuccess) :
      Fault r (.text ("received unexpected stream response code: " ++ toString a.statusCode ++
        " (" ++ a.message ++ ")"))
  /-- A channel reports no success. -/
  | channel (a : RegisterBlobResponse) (brings : r.Brings RegisterBlobResponse.record.shape a)
      (code : a.statusCode = statusSuccess) (p : Place) (c : ChannelStatus)
      (first : a.FirstRejected p c) :
      Fault r (.text ("channel " ++ c.channel ++ " rejected rows with status code " ++
        toString c.statusCode))

/-- What the checks of an insertion make of a reply. -/
def insertion (r : Reply) : Except Cause Unit :=
  r.judge RegisterBlobResponse.record.shape RegisterBlobResponse.taken

variable {r : Reply}

theorem clean_iff : r.Clean ↔ r.insertion = .ok () := by
  rw [insertion, judge_eq_ok_iff, Clean]
  simp only [RegisterBlobResponse.taken_eq_ok_iff]

/-- A reply that is not received in full. -/
theorem fault_of_received {cause : Cause}
    (h : r.received RegisterBlobResponse.record.shape = .error cause) : r.Fault cause := by
  obtain ⟨delay, hang, fail, response⟩ := r
  cases fail with
  | some words =>
    cases h
    exact .transport words rfl
  | none =>
    change receive _ response = .error cause at h
    rw [receive] at h
    split at h
    · rename_i status
      cases h
      exact .status rfl status
    · rename_i status
      split at h
      · rename_i undecodable
        cases h
        refine .decoding rfl (Decidable.not_not.1 status) (fun a ha => ?_) _
        rw [undecodable] at ha
        cases ha
      · cases h

/-- A reply that is received in full, with an answer that does not count as success. -/
theorem fault_of_taken {a : RegisterBlobResponse}
    (brings : r.Brings RegisterBlobResponse.record.shape a) {cause : Cause}
    (h : a.taken = .error cause) : r.Fault cause := by
  rw [RegisterBlobResponse.taken, checkCode] at h
  split at h
  · rename_i code
    split at h
    · cases h
    · rename_i c cs failed
      obtain ⟨p, first⟩ := RegisterBlobResponse.firstRejected_of_failedChannels failed
      cases h
      exact .channel a brings code p c first
  · rename_i code
    cases h
    exact .code a brings code

theorem fault_of_insertion {cause : Cause} (h : r.insertion = .error cause) : r.Fault cause := by
  rw [insertion, judge] at h
  cases hr : r.received RegisterBlobResponse.record.shape with
  | error why =>
    rw [hr] at h
    cases h
    exact fault_of_received hr
  | ok a =>
    rw [hr] at h
    exact fault_of_taken (received_eq_ok_iff.1 hr) h

end Reply

namespace Writer

variable {w : Writer (List Reply)} {l : Line (List Reply)} {ctx : Context} {t : Tick}

/-- An insertion into an open channel is judged by its reply. -/
theorem settled_write (hw : w.transport = .scripted) {s : Session} (hl : l.channel = .opened s)
    {batch : List Message} (hb : batch ≠ []) (hj : ∀ m ∈ batch, IsJson m) {token : Token}
    (hm : w.signer.mint l.now = .ok token) (hc : ctx.isCancelled t = false) :
    let r := nextReply l.transport
    r.Settled ctx (w.deadline ctx) t (r.insertion.mapError (.transport "insert_rows" none))
      ((w.write ctx batch).run.run none t l).finished := by
  intro r
  obtain ⟨rows, -, run⟩ := run_write_concluded hl hb hj ctx t
  rw [run]
  refine (settled_exchange hw hc hm "insert_rows" _ _).andThen (fun u l' => ?_) fun e u l' => rfl
  rw [Reply.insertion, Reply.judge]
  cases r.received RegisterBlobResponse.record.shape with
  | error cause => rfl
  | ok a =>
    show _ = some (a.taken.mapError (Failure.transport "insert_rows" none), u)
    simp only [Except.mapError, concluded]
    cases a.taken <;> rfl

/-- How an insertion comes out. -/
structure Judged (ctx : Context) (d : Duration) (t : Tick) (r : Reply)
    (finished : Option (Except Failure Unit × Tick)) : Prop where
  accepted : (∃ u, finished = some (.ok (), u)) ↔ r.InTime ctx d t ∧ r.Clean
  refused : ∀ u, r.arrives t = some u → ctx.Permits d t u → ¬ r.Clean →
    ∃ cause, r.Fault cause ∧ finished = some (.error (.transport "insert_rows" none cause), u)
  late : ¬ r.InTime ctx d t → ctx.isCancelled (d.due t) = false →
    finished = some (.error (.timeout d.wholeMillis), d.due t)
  cancelled : ¬ r.InTime ctx d t → ctx.isCancelled (d.due t) = true →
    ∃ cut ≤ d.due t, ctx.isCancelled cut = true ∧ finished = some (.error .cancelled, cut)

/-- An insertion into an open channel is accepted exactly if its reply comes in time and is clean;
else it fails with its deadline, as cancelled, or for the first fault of the reply. -/
theorem write_judged (hw : w.transport = .scripted) {s : Session} (hl : l.channel = .opened s)
    {batch : List Message} (hb : batch ≠ []) (hj : ∀ m ∈ batch, IsJson m) {token : Token}
    (hm : w.signer.mint l.now = .ok token) (hc : ctx.isCancelled t = false) :
    Judged ctx (w.deadline ctx) t (nextReply l.transport)
      ((w.write ctx batch).run.run none t l).finished := by
  have settled := settled_write hw hl hb hj hm hc
  refine ⟨?_, fun u hu permits unclean => ?_, settled.late, settled.cancelled⟩
  · rw [settled.ok_iff, mapError_eq_ok_iff, Reply.clean_iff]
  · cases hi : (nextReply l.transport).insertion with
    | ok a => exact absurd (Reply.clean_iff.2 hi) unclean
    | error cause =>
      refine ⟨cause, Reply.fault_of_insertion hi, ?_⟩
      rw [settled.inTime u hu permits, hi]
      rfl

/-- A reply in which the second of two chunks names a channel that refused its rows. -/
def halfTaken : Reply where
  response := ⟨200, Utf8.encode
    ("\x7b\"status_code\":0,\"blobs\":[\x7b\"chunks\":[\x7b\x7d,\x7b\"channels\":[" ++
      "\x7b\"channel\":\"a\"\x7d,\x7b\"channel\":\"b\",\"status_code\":20\x7d]\x7d]\x7d]\x7d")⟩

/-- Insertions that are answered by success, with a channel that refused its rows, and never. -/
theorem write_judged_of_half_taken :
    let w : Writer (List Reply) := .ofConfig {} notary .scripted
    let written (r : Reply) := ((w.write {} [{ content := Utf8.encode "\x7b\x7d" }]).run.run none 0
      ⟨.opened ⟨{}, 7⟩, ⟨"req", 1⟩, 0, [r]⟩).finished
    (∃ u, written {} = some (.ok (), u)) ∧
      (∃ cause, halfTaken.Fault cause ∧
        written halfTaken = some (.error (.transport "insert_rows" none cause), 0)) ∧
      written { hang := true } = some (.error (.timeout (w.deadline {}).wholeMillis),
        (w.deadline {}).due 0) := by
  intro w written
  have text : IsJson { content := Utf8.encode "\x7b\x7d" } := isOk_iff.1 (by decide +kernel)
  obtain ⟨token, minted⟩ : ∃ token, notary.mint 0 = .ok token := isOk_iff.1 rfl
  have judged (r : Reply) : Judged {} (w.deadline {}) 0 r (written r) :=
    write_judged (w := w) (l := ⟨.opened ⟨{}, 7⟩, ⟨"req", 1⟩, 0, [r]⟩) (t := 0) rfl rfl
      (List.cons_ne_nil _ _) (fun m hm => List.mem_singleton.1 hm ▸ text) minted rfl
  have permits : Context.Permits {} (w.deadline {}) 0 0 := ⟨Nat.zero_le _, rfl⟩
  refine ⟨(judged {}).accepted.2 ⟨⟨0, rfl, permits⟩, ?_⟩,
    (judged halfTaken).refused 0 rfl permits ?_, (judged { hang := true }).late nofun rfl⟩
  · exact Reply.clean_iff.2 (isOk_iff.1 (by decide +kernel)).choose_spec
  · intro clean
    have ok : halfTaken.insertion.isOk = true := isOk_iff.2 ⟨(), Reply.clean_iff.1 clean⟩
    have refused : halfTaken.insertion.isOk = false := by decide +kernel
    rw [refused] at ok
    cases ok

end Writer

end KvBridge.Stream
