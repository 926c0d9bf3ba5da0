import KvBridge.Proofs.Stream.Wire
import KvBridge.Proofs.Timed.Instant

/-!
# What an exchange with the ingestion service does

A writer over a scripted transport takes the next reply for each request that it posts, whatever
becomes of the reply. An exchange either posts nothing, fails, and leaves the script as it is, or
posts one request and takes one reply (`Writer.Exchanged`). It always ends, and leaves the channel
as it is.

* `Reply.run_answer`: a reply on its way;
* `Writer.run_post`: a request within a context;
* `Writer.run_exchange_eq`: an exchange, step by step;
* `Writer.exchanged`: an exchange.
-/

namespace KvBridge

variable {σ α β : Type}

/-! ## Calls -/

theorem Timed.Ends.callBind {x : Call σ α} {f : α → Call σ β} (hx : x.run.Ends)
    (hf : ∀ a, (f a).run.Ends) : (x >>= f).run.Ends := by
  rw [ExceptT.run_bind]
  refine .bind hx fun r => ?_
  cases r with
  | ok a => exact hf a
  | error e => exact .done _

namespace Stream

open Json (Shape)

/-- The reply that the next post takes. -/
def nextReply (replies : List Reply) : Reply := replies.head?.getD {}

/-- A reply on its way: nothing but time passes, and what comes is the response. -/
theorem Reply.run_answer {τ : Type} (r : Reply) (horizon : Option Tick) (t : Tick) (s : τ) :
    ∃ finished, (r.answer : Program τ _).run horizon t s = ⟨finished, s, []⟩ ∧
      ∀ x u, finished = some (.ok x, u) → x = r.response := by
  obtain ⟨delay, hang, fail, response⟩ := r
  have late (t : Tick) : ∃ finished,
      (answer ⟨none, hang, fail, response⟩ : Program τ _).run horizon t s = ⟨finished, s, []⟩ ∧
        ∀ x u, finished = some (.ok x, u) → x = response := by
    cases hang with
    | true => exact ⟨none, rfl, by simp⟩
    | false =>
      cases fail with
      | some words => exact ⟨_, rfl, by simp⟩
      | none =>
        refine ⟨_, rfl, ?_⟩
        rintro x u ⟨⟩
        rfl
  cases delay with
  | none => exact late t
  | some d =>
    cases hd : Timed.isSeen horizon (t + Tick.ofMillis d.timerMillis) with
    | true =>
      obtain ⟨finished, h, hx⟩ := late (t + Tick.ofMillis d.timerMillis)
      exact ⟨finished, (if_pos hd).trans h, hx⟩
    | false => exact ⟨none, if_neg (Bool.eq_false_iff.1 hd), by simp⟩

/-- Each post takes the next reply at once. -/
theorem Transport.run_scripted (request : Request) (horizon : Option Tick) (t : Tick)
    (replies : List Reply) :
    (scripted.post request).run horizon t replies =
      ((nextReply replies).answer.run horizon t replies.tail).after [.post request] := by
  cases replies <;> rfl

/-- A response that is received in full has the shape. -/
theorem read_of_receive {shape : Shape α} {operation : String} {r : Response} {a : α}
    (h : (receive shape r).mapError (Failure.transport operation none) = .ok a) :
    shape.read r.body = .ok a := by
  simp only [receive] at h
  split at h
  · cases h
  split at h
  · cases h
  · rename_i hr
    rw [hr]
    exact congrArg _ (Except.ok.inj h)

namespace Writer

variable {w : Writer (List Reply)} {l : Line (List Reply)} {t : Tick}

/-- What a request does that is posted: it takes a reply, and answers its response or fails. -/
structure Posted (request : Request) (l : Line (List Reply))
    (o : Timed.Outcome Event (Line (List Reply)) (Except Failure Response)) : Prop where
  events : o.events = [.post request]
  state : o.state = { l with transport := l.transport.tail }
  answer : ∀ response u, o.finished = some (.ok response, u) →
    response = (nextReply l.transport).response

theorem Posted.within {ctx : Context} (hc : ctx.isCancelled t = false) {request : Request}
    {body : Timed Event (Line (List Reply)) (Except Failure Response)}
    (hb : ∀ nearby, Posted request l (body.run nearby t l)) :
    Posted request l ((ctx.within body).run none t l) := by
  obtain ⟨nearby, -, -, ending, he, hr⟩ := ctx.run_within hc (Timed.isSeen_none t) body l
  obtain ⟨hes, hs, ha⟩ := hb nearby
  rw [hr]
  generalize body.run nearby t l = o at *
  obtain ⟨finished, l', es⟩ := o
  refine ⟨hes, hs, ?_⟩
  cases he with
  | done r u =>
    rintro response _ ⟨⟩
    exact ha response u rfl
  | cut why cut => cases why <;> nofun
  | waiting => nofun

/-- A request is not posted by a call that is cancelled. All others are. -/
theorem run_post (hw : w.transport = .scripted) (ctx : Context) (operation : String)
    (request : Request) (t : Tick) (l : Line (List Reply)) :
    (∃ f, (w.post ctx operation request).run.run none t l = ⟨some (.error f, t), l, []⟩) ∨
      Posted request l ((w.post ctx operation request).run.run none t l) := by
  cases hc : (ctx.orTimeout w.requestTimeout).isCancelled t with
  | true => exact .inl ⟨.cancelled, Context.run_within_of_isCancelled hc _ _ _⟩
  | false =>
    refine .inr (Posted.within hc fun nearby => ?_)
    obtain ⟨finished, h, hx⟩ := (nextReply l.transport).run_answer nearby t l.transport.tail
    rw [Timed.bind_eq_bind, Timed.run_bind, Timed.run_zoom Line.transport
      (fun t l => { l with transport := t }) (fun _ _ => rfl) (fun _ => rfl) fun _ _ _ => rfl, hw,
      Transport.run_scripted, h]
    rcases finished with _ | ⟨cause | response, u⟩
    · exact ⟨rfl, rfl, nofun⟩
    · exact ⟨rfl, rfl, nofun⟩
    · refine ⟨rfl, rfl, ?_⟩
      rintro _ _ ⟨⟩
      exact hx response u rfl

/-- What an exchange does: it posts nothing and fails, or posts one request, takes a reply and
answers what that says or fails. The channel stays as it is. -/
structure Exchanged (w : Writer (List Reply)) (ask : Ask) (shape : Shape α)
    (l : Line (List Reply))
    (o : Timed.Outcome Event (Line (List Reply)) (Except Failure α)) : Prop where
  channel : o.state.channel = l.channel
  posted : o.events = [] ∧ (∀ a u, o.finished ≠ some (.ok a, u)) ∨
    ∃ requestId token, o.events = [.post (w.request requestId token ask)] ∧
      ∀ a u, o.finished = some (.ok a, u) →
        shape.read (nextReply l.transport).response.body = .ok a

/-- How an exchange goes: it draws an identifier, has a token made, and posts if it has one. -/
theorem run_exchange_eq (w : Writer (List Reply)) (ctx : Context) (operation : String) (ask : Ask)
    (shape : Shape α) (t : Tick) (l : Line (List Reply)) :
    (w.exchange ctx operation ask shape).run.run none t l =
      match w.signer.mint l.now with
      | .error f => ⟨some (.error f, t), { l with ids := l.ids.draw.2 }, []⟩
      | .ok token =>
        ((w.post ctx operation (w.request l.ids.draw.1 token ask)).run.run none t
          { l with ids := l.ids.draw.2 }).andThen fun r u l =>
          match r with
          | .error f => ⟨some (.error f, u), l, []⟩
          | .ok response =>
            ⟨some ((receive shape response).mapError (.transport operation none), u), l, []⟩ := by
  have hdraw : (draw : Call (Line (List Reply)) _).run.run none t l =
      ⟨some (.ok (l.ids.draw.1, l.now), t), { l with ids := l.ids.draw.2 }, []⟩ := rfl
  rw [exchange, Call.run_bind, hdraw, Timed.Outcome.andThen_some, Timed.Outcome.after_nil]
  simp only
  rw [Call.run_bind, Call.run_mk_done, Timed.Outcome.andThen_some, Timed.Outcome.after_nil]
  cases w.signer.mint l.now with
  | error f => rfl
  | ok token =>
    simp only
    rw [Call.run_bind]
    congr 1
    funext r u l
    cases r <;> rfl

theorem exchanged (hw : w.transport = .scripted) (ctx : Context) (operation : String) (ask : Ask)
    (shape : Shape α) (t : Tick) (l : Line (List Reply)) :
    Exchanged w ask shape l ((w.exchange ctx operation ask shape).run.run none t l) := by
  rw [run_exchange_eq]
  cases w.signer.mint l.now with
  | error f => exact ⟨rfl, .inl ⟨rfl, nofun⟩⟩
  | ok token =>
    simp only
    rcases run_post hw ctx operation (w.request l.ids.draw.1 token ask) t
      { l with ids := l.ids.draw.2 } with ⟨f, h⟩ | ⟨hes, hs, ha⟩
    · rw [h]
      exact ⟨rfl, .inl ⟨rfl, nofun⟩⟩
    · generalize (w.post ctx operation _).run.run none t _ = o at *
      obtain ⟨finished, l', es⟩ := o
      cases hes
      cases hs
      rcases finished with _ | ⟨f | response, u⟩
      · exact ⟨rfl, .inr ⟨_, token, rfl, nofun⟩⟩
      · exact ⟨rfl, .inr ⟨_, token, rfl, nofun⟩⟩
      · refine ⟨rfl, .inr ⟨_, token, rfl, fun a u' h => ?_⟩⟩
        simp only [Timed.Outcome.andThen_some, Timed.Outcome.after, Option.some.injEq,
          Prod.mk.injEq] at h
        rw [← ha response u rfl]
        exact read_of_receive h.1

/-- A request has a deadline, the caller's or the configured one. -/
theorem ends_post (w : Writer (List Reply)) (ctx : Context) (operation : String)
    (request : Request) : (w.post ctx operation request).run.Ends := by
  obtain ⟨c, _ | d⟩ := ctx
  · exact Context.ends_within_of_timeout (d := w.requestTimeout) rfl _
  · exact Context.ends_within_of_timeout (d := d) rfl _

theorem ends_exchange (w : Writer (List Reply)) (ctx : Context) (operation : String) (ask : Ask)
    (shape : Shape α) : (w.exchange ctx operation ask shape).run.Ends := by
  refine .callBind (.step fun _ => .done _) fun draws => ?_
  refine .callBind (.done _) fun token => ?_
  exact .callBind (ends_post w ctx operation _) fun r => .done _

end Writer

end Stream

end KvBridge
