import KvBridge.Proofs.Stream.Exchange

/-!
# Rows are numbered without gaps

A *ledger* (`Ledger`) is what the caller of a writer and the service know of the open channel: the
answer that opened it, and the rows of the insertions that were answered with success. It is made
from the answers of the calls, the script of the replies and what was posted, never from the session
of the writer. The session is always that of the ledger, the body of every insertion that is posted
says the number that the ledger has come to (`Ledger.Places`), and the insertions that were answered
with success follow each other without a gap (`history_accords_with_ledger`). A call that fails
leaves the ledger as it is, so that the next insertion is posted at the same number.
-/

namespace KvBridge.Stream

/-! ## Runs -/

/-- A call to a writer. -/
inductive StreamCall
  | connect (ctx : Context)
  | write (ctx : Context) (batch : List Message)
  | close

/-- A call, when it is made, and the reading of the clock by then. -/
structure StreamStep where
  call : StreamCall
  start : Tick
  now : Reading

/-- A call in a run, what it found and how it went. -/
structure StreamTurn where
  call : StreamCall
  found : Line (List Reply)
  outcome : Timed.Outcome Event (Line (List Reply)) (Except Failure Unit)

namespace Writer

/-- The program of a call. -/
def perform (w : Writer (List Reply)) : StreamCall → Call (Line (List Reply)) Unit
  | .connect ctx => w.connect ctx
  | .write ctx batch => w.write ctx batch
  | .close => close

/-- How the calls of a run go, one after the other. -/
def history (w : Writer (List Reply)) : List StreamStep → Line (List Reply) → List StreamTurn
  | [], _ => []
  | step :: steps, l =>
    let found := { l with now := step.now }
    let o := (w.perform step.call).run.run none step.start found
    ⟨step.call, found, o⟩ :: history w steps o.state

end Writer

/-! ## Ledgers -/

/-- The request that an event posts. -/
def posted? : Event → Option Request
  | .post r => some r
  | _ => none

/-- The requests among events. -/
def requests (es : List Event) : List Request := es.filterMap posted?

theorem requests_append (es fs : List Event) : requests (es ++ fs) = requests es ++ requests fs :=
  List.filterMap_append

/-- The insertions among requests to a service. -/
def insertions (service : String) (rs : List Request) : List Request :=
  rs.filter fun r => r.url = insertionUrl service

namespace StreamTurn

variable (turn : StreamTurn)

/-- What the call answered. -/
def answer : Option (Except Failure Unit) := turn.outcome.finished.map Prod.fst

/-- The requests that the call posted. -/
def requests : List Request := Stream.requests turn.outcome.events

/-- What the next reply says about a channel that it opens. -/
def opening? : Option OpenChannelResponse :=
  (OpenChannelResponse.record.shape.read (nextReply turn.found.transport).response.body).toOption

end StreamTurn

/-- What is known of an open channel: how it was opened, how many messages were written with
success since then, and at which numbers how many rows were posted for them. -/
structure Ledger where
  opening : OpenChannelResponse
  written : Nat
  ranges : List (Int × Nat)

namespace Ledger

/-- The number of the next row. -/
def next (L : Ledger) : Int := L.opening.rowSequencer + L.written

/-- The session that the ledger stands for. -/
def session (L : Ledger) : Session := ⟨L.opening, L.next⟩

/-- The ledger after a call: only a call that succeeds changes it. -/
def after (service : String) (L : Option Ledger) (turn : StreamTurn) : Option Ledger :=
  match turn.answer, turn.call with
  | some (.ok ()), .connect _ => L.or (turn.opening?.map fun r => ⟨r, 0, []⟩)
  | some (.ok ()), .write _ batch =>
    L.map fun L => ⟨L.opening, L.written + batch.length,
      L.ranges ++ (insertions service turn.requests).filterMap Request.range?⟩
  | some (.ok ()), .close => none
  | _, _ => L

end Ledger

/-- The body of a request inserts a batch at the number that the ledger has come to. -/
structure Ledger.Places (L : Ledger) (batch : List Message) (r : Request) (rows : Rows) :
    Prop where
  body : r.Inserts rows
  clientSequencer : rows.clientSequencer = L.opening.clientSequencer
  rowSequencer : rows.rowSequencer = L.next
  offsetToken : rows.offsetToken = L.opening.offsetToken
  length : rows.rows.length = batch.length
  documents : batch.map Message.document = rows.rows.map .ok

/-- Each range starts where the one before it ends, the first one at `base` and the last one ends
before `next`. -/
def Tiles (base : Int) : List (Int × Nat) → Int → Prop
  | [], next => next = base
  | (first, count) :: ranges, next => first = base ∧ Tiles (base + count) ranges next

/-- A call as the ledger of the calls before it has it. -/
structure StreamTurn.Numbered (service : String) (past : Option Ledger) (turn : StreamTurn) :
    Prop where
  ends : turn.answer.isSome = true
  found : turn.found.channel.session? = past.map Ledger.session
  left : turn.outcome.state.channel.session? = (Ledger.after service past turn).map Ledger.session
  places : ∀ r ∈ insertions service turn.requests, ∃ L ctx batch rows,
    past = some L ∧ turn.call = .write ctx batch ∧ L.Places batch r rows
  tiles : ∀ L, Ledger.after service past turn = some L →
    Tiles L.opening.rowSequencer L.ranges L.next

/-- Each call of a run is as the ledger of the calls before it has it. -/
def Accords (service : String) : Option Ledger → List StreamTurn → Prop
  | _, [] => True
  | past, turn :: turns =>
    turn.Numbered service past ∧ Accords service (Ledger.after service past turn) turns

theorem Tiles.append {base first : Int} {count : Nat} {ranges : List (Int × Nat)}
    (h : Tiles base ranges first) : Tiles base (ranges ++ [(first, count)]) (first + count) := by
  induction ranges generalizing base with
  | nil => exact ⟨h, congrArg (· + (count : Int)) h⟩
  | cons range ranges ih => exact ⟨h.1, ih h.2⟩

/-! ## One call -/

theorem Ledger.after_write (service : String) (L : Ledger) (ctx : Context) (batch : List Message)
    (l : Line (List Reply)) (o : Timed.Outcome Event (Line (List Reply)) (Except Failure Unit))
    (ho : o.finished.map Prod.fst = some (.ok ())) :
    Ledger.after service (some L) ⟨.write ctx batch, l, o⟩ =
      some ⟨L.opening, L.written + batch.length,
        L.ranges ++ (insertions service (requests o.events)).filterMap Request.range?⟩ := by
  simp only [after, StreamTurn.answer, ho, StreamTurn.requests, Option.map_some]

/-- All messages of a batch that becomes rows are JSON texts, and the rows are their contents. -/
theorem documentsFrom_ok {batch : List Message} {index : Nat} {rows : List Json}
    (h : documentsFrom index batch = .ok rows) : batch.map Message.document = rows.map .ok := by
  induction batch generalizing index rows with
  | nil =>
    cases h
    rfl
  | cons m ms ih =>
    simp only [documentsFrom] at h
    split at h
    · cases h
    · rename_i v hv
      cases hr : documentsFrom (index + 1) ms with
      | error e =>
        rw [hr] at h
        cases h
      | ok rest =>
        rw [hr] at h
        cases h
        simp only [List.map_cons, hv, ih hr]

namespace Writer

variable {w : Writer (List Reply)} {l : Line (List Reply)}

theorem insertions_opening (w : Writer (List Reply)) (id : String) (token : Token)
    (mode : WriteMode) : insertions w.baseUrl [w.request id token (.openChannel mode)] = [] :=
  List.filter_cons_of_neg (by simp [url_opening, openingUrl_ne_insertionUrl])

theorem insertions_insertion (w : Writer (List Reply)) (id : String) (token : Token)
    (rows : Rows) : insertions w.baseUrl [w.request id token (.insertRows rows)] =
      [w.request id token (.insertRows rows)] :=
  List.filter_cons_of_pos (by simp [url_insertion])

/-- How an operation ends that tells of it, once all else is done. -/
def ending (operation : String) (r : Except Failure Unit) (u : Tick) (l : Line (List Reply)) :
    Timed.Outcome Event (Line (List Reply)) (Except Failure Unit) :=
  ⟨some (r, u), l, [.ended "stream" operation (outcomeLabel r)]⟩

/-- Only what came before the end of an operation can have posted a request. -/
theorem requests_ending (operation : String) (r : Except Failure Unit) (u : Tick)
    (l : Line (List Reply)) (es : List Event) :
    requests ((ending operation r u l).after es).events = requests es := by
  simp [requests, ending, Timed.Outcome.after, posted?]

theorem requests_notice (es : List Event) (level : Level) (text : String) :
    requests (es ++ [.notice level text]) = requests es := by
  simp [requests, posted?]

theorem run_channel (t : Tick) (l : Line (List Reply)) :
    (channel : Call (Line (List Reply)) _).run.run none t l = ⟨some (.ok l.channel, t), l, []⟩ :=
  rfl

theorem run_connect_of_opened {s : Session} (hl : l.channel = .opened s) (ctx : Context)
    (t : Tick) : (w.connect ctx).run.run none t l = ending "open_channel" (.ok ()) t l := by
  obtain ⟨channel, ids, now, replies⟩ := l
  cases hl
  rw [connect, run_observed, ExceptT.run, Timed.run_alone]
  rfl

theorem run_connect_of_none (hl : l.channel.session? = none) (ctx : Context) (t : Tick) :
    (w.connect ctx).run.run none t l =
      ((w.exchange ctx "open_channel" (.openChannel .cloudStorage)
        OpenChannelResponse.record.shape).run.run none t l).andThen fun r u l =>
        match r with
        | .error f => ending "open_channel" (.error f) u l
        | .ok r =>
          match r.opened with
          | .error cause =>
            ending "open_channel" (.error (.transport "open_channel" none cause)) u l
          | .ok session =>
            (ending "open_channel" (.ok ()) u { l with channel := .opened session }).after
              [.notice .info "channel opened"] := by
  rw [connect, run_observed, ExceptT.run, Timed.run_alone, Call.run_bind, run_channel,
    Timed.Outcome.andThen_some, Timed.Outcome.after_nil]
  cases hch : l.channel with
  | opened s =>
    rw [hch] at hl
    cases hl
  | disconnected | closed =>
    simp only
    rw [Call.run_bind, Timed.Outcome.andThen_andThen]
    congr 1
    funext r u l
    cases r with
    | error f => rfl
    | ok r =>
      simp only
      cases r.opened <;> rfl

theorem run_write_of_none (hl : l.channel.session? = none) (ctx : Context) (batch : List Message)
    (t : Tick) :
    (w.write ctx batch).run.run none t l = ending "insert_rows" (.error .notConnected) t l := by
  rw [write, run_observed, ExceptT.run, Timed.run_alone, Call.run_bind, run_channel,
    Timed.Outcome.andThen_some, Timed.Outcome.after_nil]
  cases hch : l.channel with
  | opened s =>
    rw [hch] at hl
    cases hl
  | disconnected | closed => rfl

theorem run_write_of_opened {s : Session} (hl : l.channel = .opened s) (ctx : Context)
    (batch : List Message) (t : Tick) :
    (w.write ctx batch).run.run none t l =
      match documents batch with
      | .error f => ending "insert_rows" (.error f) t l
      | .ok rows =>
        if rows.isEmpty then ending "insert_rows" (.ok ()) t l
        else ((w.exchange ctx "insert_rows" (.insertRows (s.place rows))
          RegisterBlobResponse.record.shape).run.run none t l).andThen fun r u l =>
          match r with
          | .error f => ending "insert_rows" (.error f) u l
          | .ok r =>
            match r.taken with
            | .error cause =>
              ending "insert_rows" (.error (.transport "insert_rows" none cause)) u l
            | .ok () =>
              ending "insert_rows" (.ok ()) u
                { l with channel := .opened (s.advance rows.length) } := by
  rw [write, run_observed, ExceptT.run, Timed.run_alone, Call.run_bind, run_channel,
    Timed.Outcome.andThen_some, Timed.Outcome.after_nil, hl]
  simp only
  rw [Call.run_bind, Call.run_mk_done, Timed.Outcome.andThen_some, Timed.Outcome.after_nil]
  cases documents batch with
  | error f => rfl
  | ok rows =>
    simp only
    split
    · rfl
    rw [Call.run_bind, Timed.Outcome.andThen_andThen]
    congr 1
    funext r u l
    cases r with
    | error f => rfl
    | ok r =>
      simp only
      rcases r.taken with _ | ⟨⟩ <;> rfl

theorem run_close (t : Tick) (l : Line (List Reply)) :
    ∃ es, (close : Call (Line (List Reply)) Unit).run.run none t l =
      ⟨some (.ok (), t), match l.channel with
        | .opened _ => { l with channel := .closed }
        | _ => l, es⟩ ∧ requests es = [] := by
  obtain ⟨channel, ids, now, replies⟩ := l
  rw [close, ExceptT.run, Timed.run_alone]
  cases channel with
  | opened s => exact ⟨[.notice .info "channel closed"], rfl, rfl⟩
  | disconnected | closed => exact ⟨[], rfl, rfl⟩

/-- The ledger and the channel agree, and the ranges of the ledger have no gaps. -/
structure Agrees (past : Option Ledger) (l : Line (List Reply)) : Prop where
  session : l.channel.session? = past.map Ledger.session
  tiles : ∀ L, past = some L → Tiles L.opening.rowSequencer L.ranges L.next

/-- A call that fails, or that has nothing to do, leaves the ledger as it is. -/
theorem Agrees.numbered_of_unchanged {service : String} {past : Option Ledger}
    (h : Agrees past l) {turn : StreamTurn} (hf : turn.found = l) (he : turn.answer.isSome = true)
    (ha : Ledger.after service past turn = past) (hc : turn.outcome.state.channel = l.channel)
    (hp : ∀ r ∈ insertions service turn.requests, ∃ L ctx batch rows,
      past = some L ∧ turn.call = .write ctx batch ∧ L.Places batch r rows) :
    turn.Numbered service past where
  ends := he
  found := by rw [hf, h.session]
  left := by rw [ha, hc, h.session]
  places := hp
  tiles := by rw [ha]; exact h.tiles

theorem channel_of_session {s : Session} (h : l.channel.session? = some s) :
    l.channel = .opened s := by
  cases hch : l.channel <;> rw [hch] at h <;> cases h
  rfl

theorem session_of_opened {r : OpenChannelResponse} {s : Session} (h : r.opened = .ok s) :
    s = ⟨r, r.rowSequencer⟩ := by
  rw [OpenChannelResponse.opened] at h
  cases hc : checkCode r.statusCode r.message with
  | error cause =>
    rw [hc] at h
    cases h
  | ok a =>
    rw [hc] at h
    cases h
    rfl

theorem numbered_connect (hw : w.transport = .scripted) {past : Option Ledger}
    (h : Agrees past l) (ctx : Context) (t : Tick) :
    StreamTurn.Numbered w.baseUrl past ⟨.connect ctx, l, (w.connect ctx).run.run none t l⟩ := by
  cases past with
  | some L =>
    rw [run_connect_of_opened (channel_of_session h.session)]
    exact h.numbered_of_unchanged rfl rfl rfl rfl nofun
  | none =>
    rw [run_connect_of_none h.session]
    obtain ⟨r, u, hr⟩ := ends_exchange w ctx "open_channel" (.openChannel .cloudStorage)
      OpenChannelResponse.record.shape t l
    obtain ⟨hch, hp⟩ := exchanged hw ctx "open_channel" (.openChannel .cloudStorage)
      OpenChannelResponse.record.shape t l
    generalize (w.exchange ctx "open_channel" _ OpenChannelResponse.record.shape).run.run none t l
      = o at *
    obtain ⟨finished, l', es⟩ := o
    cases hr
    have hes : insertions w.baseUrl (requests es) = [] := by
      rcases hp with ⟨rfl, -⟩ | ⟨id, token, rfl, -⟩
      · rfl
      · exact insertions_opening w id token .cloudStorage
    rw [Timed.Outcome.andThen_some]
    cases r with
    | error f =>
      refine h.numbered_of_unchanged rfl rfl rfl hch fun r hr => ?_
      rw [StreamTurn.requests, requests_ending, hes] at hr
      cases hr
    | ok r =>
      simp only
      cases ho : r.opened with
      | error cause =>
        refine h.numbered_of_unchanged rfl rfl rfl hch fun r hr => ?_
        rw [StreamTurn.requests, requests_ending, hes] at hr
        cases hr
      | ok session =>
        have hread : OpenChannelResponse.record.shape.read (nextReply l.transport).response.body =
            .ok r := by
          rcases hp with ⟨-, hn⟩ | ⟨_, _, -, hread⟩
          · exact absurd rfl (hn r u)
          · exact hread r u rfl
        cases session_of_opened ho
        have hafter (o : Timed.Outcome Event (Line (List Reply)) (Except Failure Unit))
            (ha : o.finished.map Prod.fst = some (.ok ())) :
            Ledger.after w.baseUrl none ⟨.connect ctx, l, o⟩ = some ⟨r, 0, []⟩ := by
          simp [Ledger.after, StreamTurn.answer, ha, StreamTurn.opening?, hread, Except.toOption]
        rw [Timed.Outcome.after_after]
        refine ⟨rfl, h.session, ?_, fun r hr => ?_, ?_⟩
        · rw [hafter _ rfl]
          simp [ChannelState.session?, ending, Timed.Outcome.after, Ledger.session, Ledger.next]
        · rw [StreamTurn.requests, requests_ending, requests_notice, hes] at hr
          cases hr
        · rw [hafter _ rfl]
          rintro L ⟨⟩
          simp [Tiles, Ledger.next]

theorem numbered_close (service : String) {past : Option Ledger} (h : Agrees past l) (t : Tick) :
    StreamTurn.Numbered service past ⟨.close, l, (close : Call _ Unit).run.run none t l⟩ := by
  obtain ⟨es, hrun, hes⟩ := run_close t l
  rw [hrun]
  refine ⟨rfl, h.session, ?_, fun r hr => ?_, nofun⟩
  · show ChannelState.session? (match l.channel with
      | .opened _ => { l with channel := .closed }
      | _ => l).channel = none
    cases hl : l.channel <;> simp [ChannelState.session?, hl]
  · rw [StreamTurn.requests, hes] at hr
    cases hr

/-- An insertion that is answered with success moves ledger and channel on by its rows. -/
theorem numbered_of_taken {service : String} {L : Ledger} (h : Agrees (some L) l) (ctx : Context)
    {batch : List Message} {rows : List Json} {r : Request} {es : List Event}
    {l' : Line (List Reply)} (hplace : L.Places batch r (L.session.place rows))
    (hposted : insertions service (requests es) = [r])
    (hl : l'.channel = .opened (L.session.advance rows.length)) (u : Tick) :
    StreamTurn.Numbered service (some L)
      ⟨.write ctx batch, l, (ending "insert_rows" (.ok ()) u l').after es⟩ := by
  have hlen : rows.length = batch.length := hplace.length
  have hafter := Ledger.after_write service L ctx batch l
    ((ending "insert_rows" (.ok ()) u l').after es) rfl
  rw [requests_ending, hposted, List.filterMap_cons_some hplace.body.range?] at hafter
  have hnext : L.opening.rowSequencer + ((L.written + batch.length : Nat) : Int) =
      L.next + rows.length := by
    rw [Ledger.next, hlen]
    omega
  refine ⟨rfl, h.session, ?_, fun r' hr => ?_, ?_⟩
  · rw [hafter]
    show l'.channel.session? = _
    rw [hl, ChannelState.session?, Option.map_some]
    exact congrArg (fun n => some (⟨L.opening, n⟩ : Session)) hnext.symm
  · rw [StreamTurn.requests, requests_ending, hposted] at hr
    exact ⟨L, ctx, batch, _, rfl, rfl, List.mem_singleton.1 hr ▸ hplace⟩
  · rw [hafter]
    rintro _ ⟨⟩
    rw [Ledger.next, hnext]
    exact (h.tiles L rfl).append

theorem numbered_write (hw : w.transport = .scripted) {past : Option Ledger}
    (h : Agrees past l) (ctx : Context) (batch : List Message) (t : Tick) :
    StreamTurn.Numbered w.baseUrl past
      ⟨.write ctx batch, l, (w.write ctx batch).run.run none t l⟩ := by
  cases past with
  | none =>
    rw [run_write_of_none h.session]
    exact h.numbered_of_unchanged rfl rfl rfl rfl nofun
  | some L =>
    rw [run_write_of_opened (channel_of_session h.session)]
    cases hd : documents batch with
    | error f => exact h.numbered_of_unchanged rfl rfl rfl rfl nofun
    | ok rows =>
      have hdoc := documentsFrom_ok hd
      have hlen : rows.length = batch.length := by simpa using (congrArg List.length hdoc).symm
      simp only
      split
      · rename_i he
        have hb : batch.length = 0 := by rw [← hlen, List.isEmpty_iff.1 he, List.length_nil]
        refine h.numbered_of_unchanged rfl rfl ?_ rfl nofun
        rw [Ledger.after_write w.baseUrl L ctx batch l _ rfl, hb]
        show some (⟨L.opening, L.written + 0, L.ranges ++ []⟩ : Ledger) = some L
        rw [Nat.add_zero, List.append_nil]
      obtain ⟨r, u, hr⟩ := ends_exchange w ctx "insert_rows" (.insertRows (L.session.place rows))
        RegisterBlobResponse.record.shape t l
      obtain ⟨hch, hp⟩ := exchanged hw ctx "insert_rows" (.insertRows (L.session.place rows))
        RegisterBlobResponse.record.shape t l
      generalize (w.exchange ctx "insert_rows" _ RegisterBlobResponse.record.shape).run.run none t l
        = o at *
      obtain ⟨finished, l', es⟩ := o
      cases hr
      have hplace (id : String) (token : Token) : L.Places batch
          (w.request id token (.insertRows (L.session.place rows))) (L.session.place rows) :=
        ⟨inserts_request .., rfl, rfl, rfl, hlen, hdoc⟩
      have hes : ∀ r ∈ insertions w.baseUrl (requests es), ∃ L' ctx' batch' rows',
          some L = some L' ∧ StreamCall.write ctx batch = .write ctx' batch' ∧
            L'.Places batch' r rows' := by
        intro r hr
        refine ⟨L, ctx, batch, L.session.place rows, rfl, rfl, ?_⟩
        rcases hp with ⟨rfl, -⟩ | ⟨id, token, rfl, -⟩
        · cases hr
        · rw [List.mem_singleton.1 (List.mem_filter.1 hr).1]
          exact hplace id token
      rw [Timed.Outcome.andThen_some]
      cases r with
      | error f =>
        refine h.numbered_of_unchanged rfl rfl rfl hch ?_
        rw [StreamTurn.requests, requests_ending]
        exact hes
      | ok r =>
        simp only
        cases r.taken with
        | error cause =>
          refine h.numbered_of_unchanged rfl rfl rfl hch ?_
          rw [StreamTurn.requests, requests_ending]
          exact hes
        | ok a =>
          rcases hp with ⟨-, hn⟩ | ⟨id, token, rfl, -⟩
          · exact absurd rfl (hn r u)
          · exact numbered_of_taken h ctx (hplace id token) (insertions_insertion ..) rfl u

theorem numbered_perform (hw : w.transport = .scripted) {past : Option Ledger}
    (h : Agrees past l) (call : StreamCall) (t : Tick) :
    StreamTurn.Numbered w.baseUrl past ⟨call, l, (w.perform call).run.run none t l⟩ := by
  cases call with
  | connect ctx => exact numbered_connect hw h ctx t
  | write ctx batch => exact numbered_write hw h ctx batch t
  | close => exact numbered_close w.baseUrl h t

/-- A run that goes on from a ledger with which the channel agrees. -/
theorem accords_history (hw : w.transport = .scripted) {past : Option Ledger}
    (h : Agrees past l) (steps : List StreamStep) :
    Accords w.baseUrl past (w.history steps l) := by
  induction steps generalizing l past with
  | nil => trivial
  | cons step steps ih =>
    have hl : Agrees past { l with now := step.now } := ⟨h.session, h.tiles⟩
    have hn := numbered_perform hw hl step.call step.start
    exact ⟨hn, ih ⟨hn.left, hn.tiles⟩⟩

/-- In a run on a new writer every call ends, finds and leaves the session of the ledger, posts
insertions only of its own batch and at the number that the ledger has come to, and the insertions
that were answered with success since the channel was opened have no gaps between them. -/
theorem history_accords_with_ledger (config : StreamConfig) (signer : Signer) (ids : IdSource)
    (now : Reading) (replies : List Reply) (steps : List StreamStep) :
    let w := Writer.ofConfig config signer .scripted
    Accords w.baseUrl none (w.history steps ⟨.disconnected, ids, now, replies⟩) := by
  intro w
  have h : Agrees none ⟨.disconnected, ids, now, replies⟩ := ⟨rfl, nofun⟩
  exact accords_history rfl h steps

end Writer

end KvBridge.Stream
