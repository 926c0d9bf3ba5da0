import KvBridge.Proofs.Identifiers
import KvBridge.Proofs.Stream.Numbering
import KvBridge.Proofs.Token
import Mathlib.Data.List.Forall2

/-!
# Each request has an identifier and a token of its own

A call to a writer that asks the service draws an identifier and has a token made before it knows
whether it may post: a call that is cancelled, or that fails to have a token made, uses up its
identifier without a request (`Issued`). So the bodies of the requests of a run bear the numbers at
which they were drawn, which increase, and the text of the token of each of them says that it was
signed at the reading of the clock of its own call, whatever the clock has shown before
(`Writer.history_identified`).

* `numbersFrom`: the numbers that the requests of a run bear;
* `Writer.issued_perform`: what one call draws and posts.
-/

namespace KvBridge

variable {α β : Type}

/-! ## Identifiers -/

theorem IdSource.draw_ne (ids : IdSource) : ids.draw.2 ≠ ids := by
  intro h
  have hn : ids.next + 1 = ids.next := congrArg IdSource.next h
  simp at hn

namespace Stream

/-! ## Requests of a run -/

namespace StreamTurn

variable (turn : StreamTurn)

/-- The call drew an identifier. -/
def Draws : Prop := turn.outcome.state.ids ≠ turn.found.ids

instance : Decidable turn.Draws := inferInstanceAs (Decidable (_ ≠ _))

end StreamTurn

/-- How many identifiers the calls of a run drew. -/
def draws (turns : List StreamTurn) : Nat := turns.countP fun turn => turn.Draws

/-- The numbers of the identifiers under which the requests of a run are posted: a request has the
number that its call drew, and each number is drawn once. -/
def numbersFrom (n : Nat) : List StreamTurn → List Nat
  | [] => []
  | turn :: turns =>
    turn.requests.map (fun _ => n) ++ numbersFrom (if turn.Draws then n + 1 else n) turns

/-- The identifiers of the requests of a run have a common stem and the numbers that were drawn for
them, from a number on. The numbers increase. -/
structure Identified (stem : String) (n : Nat) (turns : List StreamTurn) : Prop where
  names : (turns.flatMap StreamTurn.requests).map Request.id? =
    (numbersFrom n turns).map fun k => some (.text (stem ++ "-" ++ toString k))
  increasing : (numbersFrom n turns).Pairwise (· < ·)
  le : ∀ k ∈ numbersFrom n turns, n ≤ k

theorem draws_cons (turn : StreamTurn) (turns : List StreamTurn) :
    draws (turn :: turns) = draws turns + if turn.Draws then 1 else 0 := by
  simp only [draws, List.countP_cons, decide_eq_true_eq]

namespace Identified

variable {stem : String} {n : Nat} {turn : StreamTurn} {turns : List StreamTurn}

theorem nil (stem : String) (n : Nat) : Identified stem n [] := ⟨rfl, .nil, nofun⟩

/-- A call that draws nothing leaves the number to the next one. -/
theorem cons_idle (hd : ¬ turn.Draws) (hr : turn.requests = []) (h : Identified stem n turns) :
    Identified stem n (turn :: turns) := by
  have hnum : numbersFrom n (turn :: turns) = numbersFrom n turns := by
    rw [numbersFrom, hr, if_neg hd, List.map_nil, List.nil_append]
  refine ⟨?_, hnum ▸ h.increasing, hnum ▸ h.le⟩
  rw [List.flatMap_cons, hr, List.nil_append, hnum]
  exact h.names

/-- A call that draws an identifier posts one request with it at most, and those after it have
larger numbers. -/
theorem cons_drawn (hd : turn.Draws) (hlen : turn.requests.length ≤ 1)
    (hid : ∀ r ∈ turn.requests, r.id? = some (.text (stem ++ "-" ++ toString n)))
    (h : Identified stem (n + 1) turns) : Identified stem n (turn :: turns) := by
  have hnum : numbersFrom n (turn :: turns) =
      turn.requests.map (fun _ => n) ++ numbersFrom (n + 1) turns := by
    rw [numbersFrom, if_pos hd]
  have hown : ∀ k ∈ turn.requests.map (fun _ => n), k = n := by
    intro k hk
    obtain ⟨-, -, rfl⟩ := List.mem_map.1 hk
    rfl
  refine ⟨?_, ?_, fun k hk => ?_⟩
  · rw [List.flatMap_cons, List.map_append, h.names, hnum, List.map_append, List.map_map]
    exact congrArg (· ++ _) (List.map_congr_left hid)
  · rw [hnum, List.pairwise_append]
    refine ⟨?_, h.increasing, fun a ha b hb => ?_⟩
    · obtain hr | ⟨r, hr⟩ : turn.requests = [] ∨ ∃ r, turn.requests = [r] := by
        match turn.requests, hlen with
        | [], _ => exact .inl rfl
        | [r], _ => exact .inr ⟨r, rfl⟩
      · rw [hr]
        exact .nil
      · rw [hr]
        exact List.pairwise_singleton ..
    · rw [hown a ha]
      exact h.le b hb
  · rw [hnum, List.mem_append] at hk
    rcases hk with hk | hk
    · exact Nat.le_of_eq (hown k hk).symm
    · exact Nat.le_of_succ_le (h.le k hk)

end Identified

/-- What a part of a call draws and posts that finds a line: nothing, or one identifier, with one
request at most that is made with it and with a token of the moment. -/
inductive Issued (w : Writer (List Reply)) (l : Line (List Reply))
    (o : Timed.Outcome Event (Line (List Reply)) α) : Prop
  | idle (ids : o.state.ids = l.ids) (posted : requests o.events = [])
  | drawn (ids : o.state.ids = l.ids.draw.2)
    (posted : ∀ r ∈ requests o.events, ∃ token ask,
      w.signer.mint l.now = .ok token ∧ r = w.request l.ids.draw.1 token ask)
    (once : (requests o.events).length ≤ 1)

/-- Every request is made with the identifier that was drawn and a token of the moment. -/
theorem Issued.made {w : Writer (List Reply)} {l : Line (List Reply)}
    {o : Timed.Outcome Event (Line (List Reply)) α} (h : Issued w l o) :
    ∀ r ∈ requests o.events, ∃ token ask,
      w.signer.mint l.now = .ok token ∧ r = w.request l.ids.draw.1 token ask := by
  cases h with
  | idle _ posted =>
    rw [posted]
    exact List.forall_mem_nil _
  | drawn _ posted _ => exact posted

/-! ## One call -/

/-- What follows a part draws and posts nothing more. -/
theorem Issued.andThen {w : Writer (List Reply)} {l : Line (List Reply)}
    {o : Timed.Outcome Event (Line (List Reply)) α}
    {f : α → Tick → Line (List Reply) → Timed.Outcome Event (Line (List Reply)) β}
    (h : Issued w l o)
    (hf : ∀ a u l, (f a u l).state.ids = l.ids ∧ requests (f a u l).events = []) :
    Issued w l (o.andThen f) := by
  obtain ⟨_ | ⟨a, u⟩, l', es⟩ := o
  · cases h with
    | idle ids posted => exact .idle ids posted
    | drawn ids posted once => exact .drawn ids posted once
  obtain ⟨hids, hposted⟩ := hf a u l'
  have hes : requests (es ++ (f a u l').events) = requests es := by
    rw [requests_append, hposted, List.append_nil]
  rw [Timed.Outcome.andThen_some]
  cases h with
  | idle ids posted => exact .idle (hids.trans ids) (hes.trans posted)
  | drawn ids posted once =>
    refine .drawn (hids.trans ids) ?_ ?_
    · show ∀ r ∈ requests (es ++ (f a u l').events), _
      rwa [hes]
    · show (requests (es ++ (f a u l').events)).length ≤ 1
      rwa [hes]

namespace Writer

variable {w : Writer (List Reply)}

/-- The identifier is drawn in any case, and the request is posted unless there is no token for it
or the call is cancelled. -/
theorem issued_exchange (hw : w.transport = .scripted) (ctx : Context) (operation : String)
    (ask : Ask) (shape : Json.Shape α) (t : Tick) (l : Line (List Reply)) :
    Issued w l ((w.exchange ctx operation ask shape).run.run none t l) := by
  rw [run_exchange_eq]
  cases hm : w.signer.mint l.now with
  | error f => exact .drawn rfl nofun (Nat.zero_le 1)
  | ok token =>
    refine Issued.andThen ?_ fun r u l => by cases r <;> exact ⟨rfl, rfl⟩
    rcases run_post hw ctx operation (w.request l.ids.draw.1 token ask) t
      { l with ids := l.ids.draw.2 } with ⟨f, h⟩ | ⟨hes, hs, -⟩
    · rw [h]
      exact .drawn rfl nofun (Nat.zero_le 1)
    · refine .drawn (congrArg Line.ids hs) ?_ ?_
      · rw [hes]
        rintro r hr
        rw [List.mem_singleton.1 hr]
        exact ⟨token, ask, hm, rfl⟩
      · rw [hes]
        exact Nat.le_refl 1

theorem issued_ending (w : Writer (List Reply)) (operation : String) (r : Except Failure Unit)
    (u : Tick) (l : Line (List Reply)) : Issued w l (ending operation r u l) := .idle rfl rfl

theorem issued_connect (hw : w.transport = .scripted) (ctx : Context) (t : Tick)
    (l : Line (List Reply)) : Issued w l ((w.connect ctx).run.run none t l) := by
  cases hs : l.channel.session? with
  | some s =>
    rw [run_connect_of_opened (channel_of_session hs)]
    exact issued_ending ..
  | none =>
    rw [run_connect_of_none hs]
    refine (issued_exchange hw ctx _ _ _ t l).andThen fun r u l => ?_
    split
    · exact ⟨rfl, rfl⟩
    split <;> exact ⟨rfl, rfl⟩

theorem issued_write (hw : w.transport = .scripted) (ctx : Context) (batch : List Message)
    (t : Tick) (l : Line (List Reply)) :
    Issued w l ((w.write ctx batch).run.run none t l) := by
  cases hs : l.channel.session? with
  | none =>
    rw [run_write_of_none hs]
    exact issued_ending ..
  | some s =>
    rw [run_write_of_opened (channel_of_session hs)]
    split
    · exact issued_ending ..
    split
    · exact issued_ending ..
    refine (issued_exchange hw ctx _ _ _ t l).andThen fun r u l => ?_
    split
    · exact ⟨rfl, rfl⟩
    split <;> exact ⟨rfl, rfl⟩

theorem issued_close (w : Writer (List Reply)) (t : Tick) (l : Line (List Reply)) :
    Issued w l ((close : Call (Line (List Reply)) Unit).run.run none t l) := by
  obtain ⟨channel, ids, now, replies⟩ := l
  rw [close, ExceptT.run, Timed.run_alone]
  cases channel with
  | opened _ => exact .idle rfl rfl
  | disconnected | closed => exact .idle rfl rfl

theorem issued_perform (hw : w.transport = .scripted) (call : StreamCall) (t : Tick)
    (l : Line (List Reply)) : Issued w l ((w.perform call).run.run none t l) := by
  cases call with
  | connect ctx => exact issued_connect hw ctx t l
  | write ctx batch => exact issued_write hw ctx batch t l
  | close => exact issued_close _ t l

/-! ## Runs -/

/-- The requests of a run that goes on from a line whose source has come to a number. -/
theorem identified_history (hw : w.transport = .scripted) (steps : List StreamStep) {stem : String}
    {n : Nat} {l : Line (List Reply)} (hl : l.ids = ⟨stem, UInt64.ofNat n⟩)
    (hn : n + draws (w.history steps l) ≤ UInt64.size) :
    Identified stem n (w.history steps l) := by
  induction steps generalizing n l with
  | nil => exact .nil stem n
  | cons step steps ih =>
    have hi := issued_perform hw step.call step.start { l with now := step.now }
    rw [history] at hn ⊢
    generalize (w.perform step.call).run.run none step.start { l with now := step.now } = o at *
    cases hi with
    | idle ids posted =>
      have hd : ¬ (⟨step.call, { l with now := step.now }, o⟩ : StreamTurn).Draws := fun h => h ids
      rw [draws_cons, if_neg hd, Nat.add_zero] at hn
      exact .cons_idle hd posted (ih (ids.trans hl) hn)
    | drawn ids posted once =>
      have hd : (⟨step.call, { l with now := step.now }, o⟩ : StreamTurn).Draws := by
        rw [StreamTurn.Draws, ids]
        exact l.ids.draw_ne
      rw [draws_cons, if_pos hd] at hn
      -- This draw is one of those that are still to come, so the counter has not wrapped around.
      have hlt : n < UInt64.size := by omega
      have hids : o.state.ids = ⟨stem, UInt64.ofNat (n + 1)⟩ := by
        rw [ids, hl, IdSource.draw_eq stem hlt]
      have hname : l.ids.draw.1 = stem ++ "-" ++ toString n := by
        rw [hl, IdSource.draw_eq stem hlt]
      refine .cons_drawn hd once (fun r hr => ?_) (ih hids (by omega))
      obtain ⟨token, ask, -, rfl⟩ := posted r hr
      rw [id?_request, hname]

/-- The body of each request of a run names the channel of the writer. -/
theorem named_history (hw : w.transport = .scripted) (steps : List StreamStep)
    (l : Line (List Reply)) :
    ∀ turn ∈ w.history steps l, ∀ r ∈ turn.requests, r.Names w.target := by
  induction steps generalizing l with
  | nil => simp [history]
  | cons step steps ih =>
    rw [history]
    refine List.forall_mem_cons.2 ⟨fun r hr => ?_, ih _⟩
    obtain ⟨token, ask, -, rfl⟩ := (issued_perform hw step.call step.start _).made r hr
    exact names_request ..

/-- The token of each request of a run was made at the reading of the clock of its call. -/
theorem vouched_history (hw : w.transport = .scripted) (steps : List StreamStep)
    (l : Line (List Reply)) :
    List.Forall₂ (fun step turn => ∀ r ∈ turn.requests, ∃ t, w.signer.Vouches step.now r.token t)
      steps (w.history steps l) := by
  induction steps generalizing l with
  | nil => exact .nil
  | cons step steps ih =>
    refine .cons (fun r hr => ?_) (ih _)
    obtain ⟨token, ask, minted, rfl⟩ := (issued_perform hw step.call step.start _).made r hr
    exact ⟨token, Signer.vouches_of_mint minted⟩

/-- In a run on a new writer that draws fewer than 2⁶⁴ identifiers, the body of each request bears
the stem of the source and the number that was drawn for it. The numbers increase, so no two
requests have the same identifier, and the token of each request is read as one that its signer made
at the reading of the clock of its own call. -/
theorem history_identified (config : StreamConfig) (signer : Signer) (stem : String)
    (now : Reading) (replies : List Reply) (steps : List StreamStep)
    (hd : draws ((Writer.ofConfig config signer .scripted).history steps
      ⟨.disconnected, ⟨stem, 1⟩, now, replies⟩) < UInt64.size) :
    let turns := (Writer.ofConfig config signer .scripted).history steps
      ⟨.disconnected, ⟨stem, 1⟩, now, replies⟩
    let ids := (turns.flatMap StreamTurn.requests).map Request.id?
    ids = (numbersFrom 1 turns).map (fun n => some (.text (stem ++ "-" ++ toString n))) ∧
      (numbersFrom 1 turns).Pairwise (· < ·) ∧ ids.Nodup ∧
      List.Forall₂ (fun step turn => ∀ r ∈ turn.requests, ∃ t, signer.Vouches step.now r.token t)
        steps turns := by
  intro turns ids
  have hn : 1 + draws turns ≤ UInt64.size := Nat.add_comm .. ▸ Nat.succ_le_of_lt hd
  obtain ⟨names, increasing, -⟩ := identified_history rfl steps rfl hn
  have hvouched : List.Forall₂ _ steps turns :=
    vouched_history (w := .ofConfig config signer .scripted) rfl steps _
  refine ⟨names, increasing, ?_, hvouched⟩
  have hne := increasing.imp fun hlt h =>
    Nat.ne_of_lt hlt (IdSource.name_injective stem (Json.text.inj (Option.some.inj h)))
  show ((turns.flatMap StreamTurn.requests).map _).Nodup
  rw [names]
  exact List.pairwise_map.2 hne

/-- A writer whose signer signs everything alike. -/
def notary : Signer := ⟨"ACC.USER.FP", "ACC.USER", fun _ => .ok []⟩

/-- A call that is cancelled beforehand, then one that the service refuses and one that it does not
answer, while the clock goes from its last reading back to its first. -/
theorem history_identified_after_cancelled_call :
    let w : Writer (List Reply) := .ofConfig {} notary .scripted
    let turns := w.history
      [⟨.connect { cancelledAt := some 0 }, 0, 7⟩, ⟨.connect {}, 0, 18446744073709551615⟩,
        ⟨.connect {}, 0, 0⟩]
      ⟨.disconnected, ⟨"req", 1⟩, 0, [{ fail := some "busy" }, { hang := true }]⟩
    draws turns < UInt64.size ∧
      (turns.flatMap StreamTurn.requests).map Request.id? =
        [some (.text "req-2"), some (.text "req-3")] := by
  intro w turns
  have hd : draws turns < UInt64.size := by decide +kernel
  have hnum : numbersFrom 1 turns = [2, 3] := by decide +kernel
  obtain ⟨names, -⟩ := history_identified {} notary "req" 0
    [{ fail := some "busy" }, { hang := true }] _ hd
  exact ⟨hd, names.trans (by rw [hnum]; rfl)⟩

end Writer

end Stream

end KvBridge
