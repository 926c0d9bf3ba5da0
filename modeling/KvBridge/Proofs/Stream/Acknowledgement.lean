import KvBridge.Proofs.Json.Carried
import KvBridge.Proofs.Stream.Verdict

/-!
# What a success says about the reply

A call that opens a channel or inserts rows succeeds only over a reply whose body admits success
(`Admits`): the status code that it carries, if it carries one, is that of success. A body that
carries none admits it too, for a code that is missing has a default, and the default is the code
of success; the service need not have acknowledged anything (`Writer.success_without_status_code`).
Over such a body the call goes on as over any other success: the channel opens, or the rows that
were sent count as taken.

* `admits_iff`: when the status code of an answer is that of success;
* `Writer.Hinges`: how a call hinges on its reply;
* `Writer.hinges_of_concluded`: a call that judges the answer of one exchange.
-/

namespace KvBridge.Stream

open Json (Shape Doc Field)

variable {ρ : Type}

/-! ## Status codes -/

/-- The part of a body that stands for its status code, if it carries one. -/
def statusPart? (record : Json.Record ρ) (body : Bytes) : Option Doc :=
  record.part? "status_code" (Json.readDoc body).1

/-- A body admits success: it carries no status code but that of success. -/
def Admits (record : Json.Record ρ) (body : Bytes) : Prop :=
  ∀ d, statusPart? record body = some d → Shape.signed64 0 d = .ok statusSuccess

instance (record : Json.Record ρ) (body : Bytes) : Decidable (Admits record body) :=
  inferInstanceAs
    (Decidable (∀ d ∈ statusPart? record body, Shape.signed64 0 d = .ok statusSuccess))

theorem OpenChannelResponse.defaults_statusCode :
    record.Defaults "status_code" Shape.signed64 (·.statusCode) := by
  refine ⟨[], _, _, rfl, fun _ _ => rfl, ?_⟩
  simp only [List.nil_append, List.forall_mem_cons]
  and_intros
  all_goals first | exact Field.keeps_defaulted fun _ _ => rfl | decide | exact nofun

theorem RegisterBlobResponse.defaults_statusCode :
    record.Defaults "status_code" Shape.signed64 (·.statusCode) := by
  refine ⟨[], _, _, rfl, fun _ _ => rfl, ?_⟩
  simp only [List.nil_append, List.forall_mem_cons]
  and_intros
  all_goals first | exact Field.keeps_defaulted fun _ _ => rfl | decide | exact nofun

/-- The status code of an answer is that of success exactly if the body admits it. -/
theorem admits_iff {record : Json.Record ρ} {code : ρ → Int}
    (h : record.Defaults "status_code" Shape.signed64 code)
    (blank : code record.blank = statusSuccess) {body : Bytes} {a : ρ}
    (ha : record.shape.read body = .ok a) : Admits record body ↔ code a = statusSuccess := by
  obtain ⟨absent, present⟩ := h.carried_of_read ha
  constructor
  · intro admits
    cases hp : record.part? "status_code" (Json.readDoc body).1 with
    | none => exact (absent hp).trans blank
    | some d => exact Except.ok.inj ((present d hp).symm.trans (admits d hp))
  · intro success d hd
    exact (present d hd).trans (congrArg _ success)

namespace Writer

variable {w : Writer (List Reply)} {l : Line (List Reply)}

/-- A call hinges on its reply: it succeeds only over a body that admits success and reads as an
answer that it accepts, and then enters the channel that the answer leads to. If it asks at all it
does so whenever such a reply comes in time, unless no token is made or the call is cancelled
beforehand. When it fails, the channel stays. -/
structure Hinges (w : Writer (List Reply)) (ctx : Context) (t : Tick) (l : Line (List Reply))
    (asks : Prop) (record : Json.Record ρ) (accepts : ρ → Prop) (next : ρ → ChannelState)
    (o : Timed.Outcome Event (Line (List Reply)) (Except Failure Unit)) : Prop where
  needs : ∀ u, o.finished = some (.ok (), u) →
    Admits record (nextReply l.transport).response.body ∧
      ∃ a, record.shape.read (nextReply l.transport).response.body = .ok a ∧ accepts a ∧
        o.state.channel = next a
  succeeds : asks → ∀ token, w.signer.mint l.now = .ok token → ctx.isCancelled t = false →
    ((∃ u, o.finished = some (.ok (), u)) ↔
      (nextReply l.transport).InTime ctx (w.deadline ctx) t ∧
        Admits record (nextReply l.transport).response.body ∧
          ∃ a, (nextReply l.transport).Brings record.shape a ∧ accepts a)
  stays : ∀ f u, o.finished = some (.error f, u) → o.state.channel = l.channel

/-- A call that asks once, and judges the answer by its status code first. -/
theorem hinges_of_concluded (hw : w.transport = .scripted) {record : Json.Record ρ}
    {code : ρ → Int} (h : record.Defaults "status_code" Shape.signed64 code)
    (blank : code record.blank = statusSuccess) {judge : ρ → Except Cause ChannelState}
    {accepts : ρ → Prop} {next : ρ → ChannelState}
    (judge_iff : ∀ a channel, judge a = .ok channel ↔
      code a = statusSuccess ∧ accepts a ∧ channel = next a)
    (ctx : Context) (operation : String) (ask : Ask) (told : List Event) (t : Tick)
    (l : Line (List Reply)) (asks : Prop) :
    w.Hinges ctx t l asks record accepts next
      (((w.exchange ctx operation ask record.shape).run.run none t l).andThen
        (concluded operation judge told)) := by
  obtain ⟨x, u, l', es, hx, hch, -, hread⟩ := run_exchange hw ctx operation ask record.shape t l
  have reads : ∀ a, x = .ok a →
      record.shape.read (nextReply l.transport).response.body = .ok a := fun a h => (hread a h).2
  rw [hx, Timed.Outcome.andThen_some]
  obtain ⟨a, channel, rfl, judged, run⟩ | ⟨unjudged, f, run⟩ :=
    concluded_cases operation judge told x u l'
  · obtain ⟨success, accepted, rfl⟩ := (judge_iff a channel).1 judged
    have admits := (admits_iff h blank (reads a rfl)).2 success
    rw [run]
    refine ⟨fun v _ => ⟨admits, a, reads a rfl, accepted, rfl⟩,
      fun _ token hm hc => ⟨fun _ => ?_, fun _ => ⟨u, rfl⟩⟩, nofun⟩
    have settled := settled_exchange hw hc hm operation ask record.shape
    rw [hx] at settled
    obtain ⟨inTime, received⟩ := (settled.ok_iff a).1 ⟨u, rfl⟩
    exact ⟨inTime, admits, a, Reply.received_eq_ok_iff.1 (mapError_eq_ok_iff.1 received), accepted⟩
  · rw [run]
    refine ⟨nofun, fun _ token hm hc => ⟨nofun, ?_⟩, fun _ _ _ => hch⟩
    rintro ⟨⟨v, hv, permits⟩, admits, a, brings, accepted⟩
    have answered := (settled_exchange hw hc hm operation ask record.shape).inTime v hv permits
    rw [hx, mapError_eq_ok_iff.2 (Reply.received_eq_ok_iff.2 brings)] at answered
    cases answered
    have success := (admits_iff h blank brings.decodes).1 admits
    exact absurd ((judge_iff a _).2 ⟨success, accepted, rfl⟩) (unjudged a _ rfl)

theorem connect_hinges (hw : w.transport = .scripted) (hl : l.channel.session? = none)
    (ctx : Context) (t : Tick) :
    w.Hinges ctx t l True OpenChannelResponse.record (fun _ => True)
      (fun a => .opened ⟨a, a.rowSequencer⟩) ((w.connect ctx).run.run none t l) := by
  rw [run_connect_concluded hl]
  refine hinges_of_concluded hw OpenChannelResponse.defaults_statusCode rfl (fun a channel => ?_)
    ctx _ _ _ t l _
  rw [OpenChannelResponse.opened, checkCode]
  split
  · rename_i success
    exact ⟨fun h => ⟨success, trivial, (Except.ok.inj h).symm⟩, fun h => congrArg _ h.2.2.symm⟩
  · rename_i failure
    constructor
    · intro h
      cases h
    · rintro ⟨success, -⟩
      exact absurd success failure

theorem write_hinges (hw : w.transport = .scripted) {s : Session} (hl : l.channel = .opened s)
    {batch : List Message} (hb : batch ≠ []) (ctx : Context) (t : Tick) :
    w.Hinges ctx t l (∀ m ∈ batch, IsJson m) RegisterBlobResponse.record
      RegisterBlobResponse.AllTaken (fun _ => .opened (s.advance batch.length))
      ((w.write ctx batch).run.run none t l) := by
  by_cases hj : ∀ m ∈ batch, IsJson m
  · obtain ⟨rows, -, run⟩ := run_write_concluded (w := w) hl hb hj ctx t
    rw [run]
    refine hinges_of_concluded hw RegisterBlobResponse.defaults_statusCode rfl
      (fun a channel => ?_) ctx _ _ _ t l _
    rw [← and_assoc, ← RegisterBlobResponse.taken_eq_ok_iff]
    cases a.taken with
    | error cause => exact ⟨nofun, nofun⟩
    | ok taken => exact ⟨fun h => ⟨rfl, (Except.ok.inj h).symm⟩, fun h => congrArg _ h.2.symm⟩
  · have refused : ∃ f, documents batch = .error f := by
      cases hd : documents batch with
      | error f => exact ⟨f, rfl⟩
      | ok rows => exact absurd (fun m hm => isJson_of_documents hd hm) hj
    obtain ⟨f, hd⟩ := refused
    rw [run_write_of_opened hl, hd]
    exact ⟨nofun, fun asks => absurd asks hj, fun _ _ _ => rfl⟩

/-- Opening a channel and inserting rows hinge on a reply that carries no other status code than
that of success. -/
theorem calls_hinge_on_reply (hw : w.transport = .scripted) (ctx : Context) (t : Tick)
    (l : Line (List Reply)) :
    (l.channel.session? = none →
      w.Hinges ctx t l True OpenChannelResponse.record (fun _ => True)
        (fun a => .opened ⟨a, a.rowSequencer⟩) ((w.connect ctx).run.run none t l)) ∧
    ∀ s batch, l.channel = .opened s → batch ≠ [] →
      w.Hinges ctx t l (∀ m ∈ batch, IsJson m) RegisterBlobResponse.record
        RegisterBlobResponse.AllTaken (fun _ => .opened (s.advance batch.length))
        ((w.write ctx batch).run.run none t l) :=
  ⟨fun hl => connect_hinges hw hl ctx t, fun _ _ hl hb => write_hinges hw hl hb ctx t⟩

/-- A reply with the status of success and a body. -/
def bodied (text : String) : Reply where
  response := ⟨200, Utf8.encode text⟩

/-- A channel is opened by an object that tells of an error and carries no status code, and not by
one that carries a status code other than that of success. -/
theorem calls_hinge_on_reply_of_two_bodies :
    let w : Writer (List Reply) := .ofConfig {} notary .scripted
    let opening (text : String) := ((w.connect {}).run.run none 0
      ⟨.disconnected, ⟨"req", 1⟩, 0, [bodied text]⟩).finished
    (∃ u, opening "\x7b\"error\":\"no such table\"\x7d" = some (.ok (), u)) ∧
      ¬ ∃ u, opening "\x7b\"status_code\":11\x7d" = some (.ok (), u) := by
  intro w opening
  obtain ⟨token, minted⟩ : ∃ token, notary.mint 0 = .ok token := isOk_iff.1 rfl
  have hinges (text : String) :=
    (calls_hinge_on_reply (w := w) rfl {} 0 ⟨.disconnected, ⟨"req", 1⟩, 0, [bodied text]⟩).1 rfl
  refine ⟨?_, fun ⟨u, opened⟩ => ?_⟩
  · obtain ⟨a, reads⟩ : ∃ a, OpenChannelResponse.record.shape.read
        (bodied "\x7b\"error\":\"no such table\"\x7d").response.body = .ok a :=
      isOk_iff.1 (by decide +kernel)
    exact ((hinges _).succeeds trivial token minted rfl).2
      ⟨⟨0, rfl, ⟨Nat.zero_le _, rfl⟩⟩, by decide +kernel, a, ⟨rfl, rfl, reads⟩, trivial⟩
  · have admits := ((hinges _).needs u opened).1
    revert admits
    decide +kernel

/-- A channel is opened by an object that tells of an error, and an insertion is answered by an
empty object: neither carries a status code, both calls succeed, and the rows count as taken. -/
theorem success_without_status_code :
    let w : Writer (List Reply) := .ofConfig {} notary .scripted
    let failing := "\x7b\"error\":\"no such table\"\x7d"
    let opened := (w.connect {}).run.run none 0
      ⟨.disconnected, ⟨"req", 1⟩, 0, [bodied failing]⟩
    let written := (w.write {} [{ content := Utf8.encode "\x7b\x7d" }]).run.run none 0
      ⟨.opened ⟨{}, 7⟩, ⟨"req", 1⟩, 0, [bodied "\x7b\x7d"]⟩
    (statusPart? OpenChannelResponse.record (bodied failing).response.body).isNone = true ∧
      (opened.finished.any (·.1.isOk)) = true ∧ opened.state.channel = .opened ⟨{}, 0⟩ ∧
      (statusPart? RegisterBlobResponse.record (bodied "\x7b\x7d").response.body).isNone = true ∧
      (written.finished.any (·.1.isOk)) = true ∧ written.state.channel = .opened ⟨{}, 8⟩ := by
  decide +kernel

end Writer

end KvBridge.Stream
