import KvBridge.Proofs.Stream.Session
import KvBridge.Proofs.Timed.Course

/-!
# When a reply comes, and what becomes of it

A reply to a request comes after its delay, or never. A call that waits for it goes by its deadline,
the caller's or else the configured one: a reply that comes in time is judged, and the call fails
with the deadline or as cancelled when none does (`Reply.Settled`). A reply is judged by what it
brings, in order: a failure of the transport, the status, the shape of the body, and what the
operation makes of that (`Reply.judge`).

* `Reply.arrives`, `Reply.InTime`: when a reply comes;
* `Reply.run_answer_alone`: a reply on its way to a caller who waits as long as it takes;
* `Writer.settled_exchange`: what an exchange with a token comes to;
* `Writer.concluded`: how a call ends that asks once and judges the answer.
-/

namespace KvBridge.Stream

open Json (Shape)

theorem isOk_iff {ε α : Type} {x : Except ε α} : x.isOk = true ↔ ∃ a, x = .ok a := by
  cases x with
  | ok a => exact ⟨fun _ => ⟨a, rfl⟩, fun _ => rfl⟩
  | error e => exact ⟨nofun, nofun⟩

theorem mapError_eq_ok_iff {ε θ α : Type} {x : Except ε α} {f : ε → θ} {a : α} :
    x.mapError f = .ok a ↔ x = .ok a := by
  cases x with
  | ok b => exact ⟨fun h => congrArg _ (Except.ok.inj h), fun h => congrArg _ (Except.ok.inj h)⟩
  | error e => exact ⟨nofun, nofun⟩

namespace Reply

variable {α β : Type}

/-- When the reply to a request comes that is posted at a tick. -/
def arrives (r : Reply) (t : Tick) : Option Tick :=
  if r.hang then none else some (r.delay.elim t fun d => d.due t)

/-- What the reply brings. -/
def outcome (r : Reply) : Except Cause Response :=
  match r.fail with
  | some words => .error (.text words)
  | none => .ok r.response

/-- The reply in the shape that the operation asks for. -/
def received (r : Reply) (shape : Shape α) : Except Cause α := do receive shape (← r.outcome)

/-- What the operation makes of the reply. -/
def judge (r : Reply) (shape : Shape α) (accept : α → Except Cause β) : Except Cause β := do
  accept (← r.received shape)

/-- The reply to a request that is posted at a tick comes before the deadline, and before the
caller cancels. -/
def InTime (r : Reply) (ctx : Context) (d : Duration) (t : Tick) : Prop :=
  ∃ u, r.arrives t = some u ∧ ctx.Permits d t u

theorem run_answer_alone {τ : Type} (r : Reply) (t : Tick) (s : τ) :
    (r.answer : Program τ _).run none t s =
      ⟨(r.arrives t).map fun u => (r.outcome, u), s, []⟩ := by
  obtain ⟨delay, hang, fail, response⟩ := r
  have prompt (t : Tick) : (answer ⟨none, hang, fail, response⟩ : Program τ _).run none t s =
      ⟨(arrives ⟨none, hang, fail, response⟩ t).map fun u =>
        (outcome ⟨none, hang, fail, response⟩, u), s, []⟩ := by
    cases hang <;> cases fail <;> rfl
  cases delay with
  | none => exact prompt t
  | some d =>
    have waits : (answer ⟨some d, hang, fail, response⟩ : Program τ _).run none t s =
        (answer ⟨none, hang, fail, response⟩ : Program τ _).run none (d.due t) s := by
      show (Timed.wait d.timerMillis (answer ⟨none, hang, fail, response⟩)).run none t s = _
      rw [Timed.run, Timed.isSeen_none, if_pos rfl, Duration.due]
    -- rewritten up to the same tick on both sides: `rfl` would count the delay out
    rw [waits, prompt, arrives, arrives, Option.elim_some, Option.elim_none, outcome, outcome]

/-- The reply is received: it is delivered, its status is that of success, and its body reads as
the answer. -/
structure Brings (r : Reply) (shape : Shape α) (a : α) : Prop where
  delivered : r.fail = none
  status : r.response.status = 200
  decodes : shape.read r.response.body = .ok a

theorem received_eq_ok_iff {r : Reply} {shape : Shape α} {a : α} :
    r.received shape = .ok a ↔ r.Brings shape a := by
  obtain ⟨delay, hang, fail, response⟩ := r
  constructor
  · intro h
    cases fail with
    | some words => cases h
    | none =>
      change receive shape response = .ok a at h
      rw [receive] at h
      split at h
      · cases h
      · rename_i hs
        split at h
        · cases h
        · rename_i hr
          cases h
          exact ⟨rfl, Decidable.not_not.1 hs, hr⟩
  · rintro ⟨rfl, status, decodes⟩
    show receive shape response = .ok a
    rw [receive, if_neg (not_not_intro status), decodes]

theorem judge_eq_ok_iff {r : Reply} {shape : Shape α} {accept : α → Except Cause β} {b : β} :
    r.judge shape accept = .ok b ↔ ∃ a, r.Brings shape a ∧ accept a = .ok b := by
  simp only [← received_eq_ok_iff, judge]
  cases r.received shape with
  | error cause => exact ⟨nofun, nofun⟩
  | ok a =>
    constructor
    · exact fun h => ⟨a, rfl, h⟩
    · rintro ⟨_, ⟨⟩, h⟩
      exact h

/-- How a call comes out that waits for a reply, by what the reply is judged to be: so if it comes
in time, and else by a failure with the deadline, or as cancelled if the caller cancels before. -/
structure Settled (r : Reply) (ctx : Context) (d : Duration) (t : Tick)
    (verdict : Except Failure α) (finished : Option (Except Failure α × Tick)) : Prop where
  inTime : ∀ u, r.arrives t = some u → ctx.Permits d t u → finished = some (verdict, u)
  late : ¬ r.InTime ctx d t → ctx.isCancelled (d.due t) = false →
    finished = some (.error (.timeout d.wholeMillis), d.due t)
  cancelled : ¬ r.InTime ctx d t → ctx.isCancelled (d.due t) = true →
    ∃ cut ≤ d.due t, ctx.isCancelled cut = true ∧ finished = some (.error .cancelled, cut)

namespace Settled

variable {σ : Type} {r : Reply} {ctx : Context} {d : Duration} {t : Tick}
  {verdict : Except Failure α}

/-- A call succeeds exactly if the reply comes in time and is judged to be a success. -/
theorem ok_iff {finished : Option (Except Failure α × Tick)}
    (h : r.Settled ctx d t verdict finished) (a : α) :
    (∃ u, finished = some (.ok a, u)) ↔ r.InTime ctx d t ∧ verdict = .ok a := by
  constructor
  · rintro ⟨u, hu⟩
    by_cases hin : r.InTime ctx d t
    · obtain ⟨v, hv, permits⟩ := hin
      have judged := h.inTime v hv permits
      rw [hu] at judged
      cases judged
      exact ⟨⟨u, hv, permits⟩, rfl⟩
    cases hc : ctx.isCancelled (d.due t) with
    | false =>
      have failed := h.late hin hc
      rw [hu] at failed
      cases failed
    | true =>
      obtain ⟨cut, -, -, failed⟩ := h.cancelled hin hc
      rw [hu] at failed
      cases failed
  · rintro ⟨⟨u, hu, permits⟩, rfl⟩
    exact ⟨u, h.inTime u hu permits⟩

/-- What follows a call, takes no time, and is done only if the call succeeds. -/
theorem andThen {o : Timed.Outcome Event σ (Except Failure α)} {judged : Except Failure β}
    (h : r.Settled ctx d t verdict o.finished)
    {f : Except Failure α → Tick → σ → Timed.Outcome Event σ (Except Failure β)}
    (verdict_f : ∀ u s, (f verdict u s).finished = some (judged, u))
    (error_f : ∀ e u s, (f (.error e) u s).finished = some (.error e, u)) :
    r.Settled ctx d t judged (o.andThen f).finished := by
  obtain ⟨finished, s, es⟩ := o
  have goes {v : Except Failure α} {b : Except Failure β} {u : Tick}
      (hf : (f v u s).finished = some (b, u)) (hv : finished = some (v, u)) :
      ((⟨finished, s, es⟩ : Timed.Outcome Event σ _).andThen f).finished = some (b, u) := by
    rw [hv, Timed.Outcome.andThen_some]
    exact hf
  refine ⟨fun u hu permits => ?_, fun late calm => ?_, fun late told => ?_⟩
  · exact goes (verdict_f u s) (h.inTime u hu permits)
  · exact goes (error_f _ _ s) (h.late late calm)
  · obtain ⟨cut, le, hcut, failed⟩ := h.cancelled late told
    exact ⟨cut, le, hcut, goes (error_f _ _ s) failed⟩

end Settled

end Reply

namespace Writer

variable {α : Type} {w : Writer (List Reply)} {l : Line (List Reply)} {ctx : Context} {t : Tick}

variable (w ctx) in
/-- The deadline of a request: the caller's, or else the configured one. -/
def deadline : Duration := ctx.deadlineOr w.requestTimeout

variable (w) in
/-- What a request does within its deadline. -/
def delivery (operation : String) (request : Request) :
    Timed Event (Line (List Reply)) (Except Failure Response) :=
  ((w.transport.post request).zoom Line.transport fun t l => { l with transport := t }).bind
    fun sent => .done (sent.mapError (.transport operation none))

theorem finished_delivery (hw : w.transport = .scripted) (operation : String) (request : Request)
    (t : Tick) (l : Line (List Reply)) :
    let r := nextReply l.transport
    ((w.delivery operation request).run none t l).finished =
      (r.arrives t).map fun u => (r.outcome.mapError (.transport operation none), u) := by
  intro r
  rw [delivery, Timed.run_bind, Timed.run_zoom Line.transport
    (fun t l => { l with transport := t }) (fun _ _ => rfl) (fun _ => rfl) fun _ _ _ => rfl, hw,
    Transport.run_scripted, Reply.run_answer_alone]
  show _ = (r.arrives t).map _
  cases r.arrives t <;> rfl

theorem settled_post (hw : w.transport = .scripted) (hc : ctx.isCancelled t = false)
    (operation : String) (request : Request) (l : Line (List Reply)) :
    let r := nextReply l.transport
    r.Settled ctx (w.deadline ctx) t (r.outcome.mapError (.transport operation none))
      ((w.post ctx operation request).run.run none t l).finished := by
  intro r
  have delivered := finished_delivery hw operation request t l
  have course : ctx.Course (w.deadline ctx) (w.delivery operation request) t l
      ((w.post ctx operation request).run.run none t l) :=
    Context.course_orTimeout hc w.requestTimeout _ l
  have overruns (late : ¬ r.InTime ctx (w.deadline ctx) t) :
      ctx.Overruns (w.deadline ctx) (w.delivery operation request) t l := by
    intro x u hx permits
    rw [delivered] at hx
    obtain ⟨v, hv, hvu⟩ := Option.map_eq_some_iff.1 hx
    cases hvu
    exact late ⟨u, hv, permits⟩
  refine ⟨fun u hu permits => ?_, fun late calm => ?_, fun late told => ?_⟩
  · exact course.finished_of_permits (by rw [delivered, hu]; rfl) permits
  · exact course.finished_of_calm (overruns late) calm
  · exact course.finished_of_isCancelled (overruns late) told

/-- An exchange for which a token is made. -/
theorem settled_exchange (hw : w.transport = .scripted) (hc : ctx.isCancelled t = false)
    {token : Token} (hm : w.signer.mint l.now = .ok token) (operation : String) (ask : Ask)
    (shape : Shape α) :
    let r := nextReply l.transport
    r.Settled ctx (w.deadline ctx) t ((r.received shape).mapError (.transport operation none))
      ((w.exchange ctx operation ask shape).run.run none t l).finished := by
  intro r
  rw [run_exchange_eq, hm]
  refine (settled_post hw hc operation _ { l with ids := l.ids.draw.2 }).andThen
    (fun u s => ?_) fun e u s => rfl
  show _ = some ((r.received shape).mapError (Failure.transport operation none), u)
  rw [Reply.received]
  cases r.outcome <;> rfl

/-! ## Calls that ask once -/

/-- How a call ends that judges the answer of an exchange: it enters the channel that the answer
leads to, or fails for what is wrong with it. -/
def concluded (operation : String) (judge : α → Except Cause ChannelState) (told : List Event)
    (x : Except Failure α) (u : Tick) (l : Line (List Reply)) :
    Timed.Outcome Event (Line (List Reply)) (Except Failure Unit) :=
  match x with
  | .error f => ending operation (.error f) u l
  | .ok a =>
    match judge a with
    | .error cause => ending operation (.error (.transport operation none cause)) u l
    | .ok channel => (ending operation (.ok ()) u { l with channel }).after told

/-- It succeeds and moves the channel on if there is an answer and that leads to a channel, and
else fails and leaves the channel as it was. -/
theorem concluded_cases (operation : String) (judge : α → Except Cause ChannelState)
    (told : List Event) (x : Except Failure α) (u : Tick) (l : Line (List Reply)) :
    (∃ a channel, x = .ok a ∧ judge a = .ok channel ∧ concluded operation judge told x u l =
      (ending operation (.ok ()) u { l with channel }).after told) ∨
    (∀ a channel, x = .ok a → judge a ≠ .ok channel) ∧
      ∃ f, concluded operation judge told x u l = ending operation (.error f) u l := by
  cases x with
  | error f => exact .inr ⟨nofun, f, rfl⟩
  | ok a =>
    rw [concluded]
    cases hj : judge a with
    | error cause =>
      refine .inr ⟨?_, _, rfl⟩
      rintro _ channel ⟨⟩ h
      rw [hj] at h
      cases h
    | ok channel => exact .inl ⟨a, channel, rfl, hj, rfl⟩

theorem run_connect_concluded (hl : l.channel.session? = none) (ctx : Context) (t : Tick) :
    (w.connect ctx).run.run none t l =
      ((w.exchange ctx "open_channel" (.openChannel .cloudStorage)
        OpenChannelResponse.record.shape).run.run none t l).andThen
          (concluded "open_channel" (fun a => a.opened.map .opened)
            [.notice .info "channel opened"]) := by
  rw [run_connect_of_none hl]
  congr 1
  funext x u l
  cases x with
  | error f => rfl
  | ok a =>
    simp only [concluded]
    cases a.opened <;> rfl

/-- A batch of JSON texts makes rows. -/
theorem documents_of_isJson {batch : List Message} (hj : ∀ m ∈ batch, IsJson m) :
    ∃ rows, documents batch = .ok rows ∧ rows.length = batch.length := by
  cases hd : documents batch with
  | ok rows =>
    have length := congrArg List.length (documentsFrom_ok hd)
    rw [List.length_map, List.length_map] at length
    exact ⟨rows, rfl, length.symm⟩
  | error f =>
    obtain ⟨i, ⟨⟨m, hm, malformed⟩, -⟩, -⟩ := documentsFrom_error hd
    exact absurd (hj m (List.mem_of_getElem? hm)) malformed

theorem run_write_concluded {s : Session} (hl : l.channel = .opened s) {batch : List Message}
    (hb : batch ≠ []) (hj : ∀ m ∈ batch, IsJson m) (ctx : Context) (t : Tick) :
    ∃ rows, documents batch = .ok rows ∧ (w.write ctx batch).run.run none t l =
      ((w.exchange ctx "insert_rows" (.insertRows (s.place rows))
        RegisterBlobResponse.record.shape).run.run none t l).andThen
          (concluded "insert_rows" (fun a => a.taken.map fun _ => .opened (s.advance batch.length))
            []) := by
  obtain ⟨rows, hd, length⟩ := documents_of_isJson hj
  have full : ¬ rows.isEmpty = true := by
    intro empty
    rw [List.isEmpty_iff.1 empty, List.length_nil] at length
    exact hb (List.length_eq_zero_iff.1 length.symm)
  refine ⟨rows, hd, ?_⟩
  rw [run_write_of_opened hl, hd]
  simp only [full, Bool.false_eq_true, if_false, length]
  congr 1
  funext x u l
  cases x with
  | error f => rfl
  | ok a =>
    simp only [concluded]
    cases a.taken <;> rfl

end Writer

end KvBridge.Stream
