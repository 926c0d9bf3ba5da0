import KvBridge.Proofs.Connection.Release
import KvBridge.Proofs.Connection.Request
import KvBridge.Proofs.Processor.Resolution

/-!
# The outcome of a batch stands at the place of its message

Over a client that is up, a batch that resolves is one command to the driver, with the keys, and
the values that are to be written, in the order of the messages. Whatever the driver replies, item
`i` of an answer belongs to message `i` and has its metadata (`Processor.process_keeps_items`): a
reply of another length is refused, and never cut or filled up. A failure of the driver that comes
in time is told under the name of the command; a reply that does not come in time is not told.

* `Processor.OneCall`: a batch as one command, by how its reply is judged;
* `Processor.LookedUp`, `Processor.Written`: the answers to a lookup and to a writing.
-/

namespace KvBridge

variable {α δ γ : Type}

/-! ## One command for a batch -/

namespace Processor

variable (p : Processor δ) {ctx : Context} {batch : List Message} {t : Tick} {d : Desk δ}

/-- How a batch goes. -/
def course (ctx : Context) (batch : List Message) (t : Tick) (d : Desk δ) :
    Timed.Outcome Event (Desk δ) (Except Failure (List Message)) :=
  (p.process ctx batch).run.run none t d

/-- A command whose reply is judged. -/
def judged (ctx : Context) (c : Command) (name : String)
    (judge : c.Reply → Except Failure (List Message)) : Call (Desk δ) (List Message) :=
  onLink (p.conn.perform ctx c (.transport name none)) >>= fun reply =>
    ExceptT.mk (.done (judge reply))

/-- A batch is one command to the driver. What its reply is judged to be is the answer, if the reply
comes in time; a failure is told under the name of the command. -/
structure OneCall (ctx : Context) (batch : List Message) (t : Tick) (d : Desk δ) (c : Command)
    (name : String) (Judged : c.Reply → Except Failure (List Message) → Prop) : Prop where
  /-- The driver is given the command once, and what else is told comes from the driver. -/
  events : ∃ near label, (p.course ctx batch t d).events =
    .command c :: ((p.conn.driver.call c).run near t d.link.store).events ++
      [.ended "processor" p.operation.name label]
  commands : p.conn.driver.Quiet → (p.course ctx batch t d).commands = [c]
  /-- Who is answered with messages is answered what the driver replied in time. -/
  ok : ∀ items u, (p.course ctx batch t d).finished = some (.ok items, u) →
    ∃ reply, (p.conn.driver.unhurried c t d.link.store).finished = some (.ok reply, u) ∧
      ctx.Permits (p.conn.deadline ctx) t u ∧ Judged reply (.ok items)
  replied : ∀ reply u,
    (p.conn.driver.unhurried c t d.link.store).finished = some (.ok reply, u) →
      ctx.Permits (p.conn.deadline ctx) t u →
      ∃ r, (p.course ctx batch t d).finished = some (r, u) ∧ Judged reply r
  failed : ∀ cause u,
    (p.conn.driver.unhurried c t d.link.store).finished = some (.error cause, u) →
      ctx.Permits (p.conn.deadline ctx) t u →
      (p.course ctx batch t d).finished = some (.error (.transport name none cause), u)
  expired : p.conn.Overruns ctx c t d.link.store →
    ctx.isCancelled ((p.conn.deadline ctx).due t) = false →
      (p.course ctx batch t d).finished =
        some (.error (.timeout (p.conn.deadline ctx).wholeMillis), (p.conn.deadline ctx).due t)
  cancelled : p.conn.Overruns ctx c t d.link.store →
    ctx.isCancelled ((p.conn.deadline ctx).due t) = true →
      ∃ u ≤ (p.conn.deadline ctx).due t, ctx.isCancelled u = true ∧
        (p.course ctx batch t d).finished = some (.error .cancelled, u)

variable {p}

/-- What comes of a command over a client that is up, by what comes of the request. -/
theorem run_judged {c : Command} {name : String} {judge : c.Reply → Except Failure (List Message)}
    {rs : Resolvers} {link link' : Link δ} (hl : link.phase = .connected)
    {r : Except Failure c.Reply} {u : Tick} {es : List Event}
    (hr : (p.conn.request ctx c (.transport name none)).run.run none t link =
      ⟨some (r, u), link', es⟩) :
    (observed "processor" p.operation.name (p.judged ctx c name judge)).run.run none t ⟨rs, link⟩ =
      ⟨some (r.bind judge, u), ⟨rs, link'⟩,
        es ++ [.ended "processor" p.operation.name (outcomeLabel (r.bind judge))]⟩ := by
  have acquired : Call.Settles (p.conn.acquire ctx) link (.ok ()) link [] :=
    Connection.settles_acquire_of_connected hl
  have linked : (onLink (p.conn.perform ctx c (.transport name none)) : Call (Desk δ) _).run.run
      none t ⟨rs, link⟩ = ⟨some (r, u), ⟨rs, link'⟩, es⟩ := by
    have performed : (p.conn.perform ctx c (.transport name none)).run.run none t link =
        ⟨some (r, u), link', es⟩ := by
      rw [Connection.perform, acquired.run_bind, hr, Timed.Outcome.after_nil]
    rw [onLink, ExceptT.run, Timed.run_zoom Desk.link (fun link d => { d with link })
      (fun _ _ => rfl) (fun _ => rfl) fun _ _ _ => rfl]
    rw [ExceptT.run] at performed
    rw [performed]
  rw [run_observed, judged, Call.run_bind, linked, Timed.Outcome.andThen_some]
  cases r with
  | error e => simp [Timed.Outcome.andThen, Timed.Outcome.after, Except.bind]
  | ok reply =>
    simp [Timed.run, Timed.Outcome.andThen, Timed.Outcome.after, Except.bind]

/-- A batch that comes down to one command. -/
theorem oneCall_of_judged {c : Command} {name : String}
    {judge : c.Reply → Except Failure (List Message)}
    {Judged : c.Reply → Except Failure (List Message) → Prop} {rs : Resolvers}
    (hl : d.link.phase = .connected) (hc : ctx.isCancelled t = false)
    (hj : ∀ reply, Judged reply (judge reply))
    (hp : p.course ctx batch t d = (observed "processor" p.operation.name
      (p.judged ctx c name judge)).run.run none t ⟨rs, d.link⟩) :
    p.OneCall ctx batch t d c name Judged := by
  have course : ctx.Course (p.conn.deadline ctx)
      (p.conn.work c (.transport name none)).run t d.link _ := Connection.course_request hc
  obtain ⟨near, -, hes⟩ := course.worked
  obtain ⟨r, u, hr⟩ := course.ends
  generalize ho : (p.conn.request ctx c (.transport name none)).run.run none t d.link = o at *
  obtain ⟨finished, link', es⟩ := o
  cases hr
  rw [run_judged hl ho] at hp
  rw [Connection.run_work] at hes
  have answer : (p.course ctx batch t d).finished = some (r.bind judge, u) := by rw [hp]
  have events : (p.course ctx batch t d).events =
      .command c :: ((p.conn.driver.call c).run near t d.link.store).events ++
        [.ended "processor" p.operation.name (outcomeLabel (r.bind judge))] := by
    rw [hp]
    exact congrArg (· ++ _) hes
  refine ⟨⟨near, _, events⟩, fun hq => ?_, fun items v h => ?_, fun reply v h permits => ?_,
    fun cause v h permits => ?_, fun overruns calm => ?_, fun overruns told => ?_⟩
  · have quiet : ((p.conn.driver.call c).run near t d.link.store).commands = [] :=
      hq c near t d.link.store
    rw [Timed.Outcome.commands] at quiet ⊢
    rw [events, List.cons_append, List.filterMap_cons, List.filterMap_append, quiet]
    rfl
  · rw [answer] at h
    cases r with
    | error f => cases h
    | ok reply =>
      obtain ⟨judged, rfl⟩ : judge reply = .ok items ∧ u = v := by simpa [Except.bind] using h
      obtain ⟨ends, permits⟩ := course.permits_of_finished rfl
      obtain ⟨_ | reply', hreply, same⟩ := Connection.unhurried_of_finished_work ends
      · cases same
      · cases same
        exact ⟨reply, hreply, permits, judged ▸ hj reply⟩
  · have told := course.finished_of_permits (Connection.finished_work h) permits
    cases told
    exact ⟨judge reply, answer, hj reply⟩
  · have told := course.finished_of_permits (Connection.finished_work h) permits
    cases told
    exact answer
  · have told := course.finished_of_calm (Connection.overruns_work overruns) calm
    cases told
    exact answer
  · obtain ⟨cut, byDeadline, hcut, told⟩ :=
      course.finished_of_isCancelled (Connection.overruns_work overruns) told
    cases told
    exact ⟨u, byDeadline, hcut, answer⟩

/-! ## Items -/

/-- There are as many items as messages, and the one in each place is what it has to be by the
message and the entry in that place. -/
structure PlaceByPlace (batch : List Message) (entries : List γ)
    (Item : Message → γ → Message → Prop) (items : List Message) : Prop where
  length : items.length = batch.length
  each : ∀ (i : Nat) (m : Message), batch[i]? = some m →
    ∃ entry item, entries[i]? = some entry ∧ items[i]? = some item ∧ Item m entry item

theorem placeByPlace_zipWith {entries : List γ} {Item : Message → γ → Message → Prop}
    {f : Message → γ → Message} (hl : entries.length = batch.length)
    (hf : ∀ m entry, Item m entry (f m entry)) :
    PlaceByPlace batch entries Item (List.zipWith f batch entries) := by
  refine ⟨by rw [List.length_zipWith, hl, Nat.min_self], fun i m hm => ?_⟩
  obtain ⟨hi, -⟩ := List.getElem?_eq_some_iff.1 hm
  have hentry := List.getElem?_eq_getElem (hl ▸ hi)
  exact ⟨entries[i], f m entries[i], hentry, by rw [List.getElem?_zipWith, hm, hentry], hf m _⟩

/-- The item of a message that was looked up: with the value if there is one, and else with the
failure that there is none. -/
structure Found (m : Message) (value? : Option Bytes) (item : Message) : Prop where
  metadata : item.metadata = m.metadata
  hit : ∀ value, value? = some value → item.content = value ∧ item.failure = m.failure
  miss : value? = none → item.content = m.content ∧ item.failure = some .keyNotFound

/-- The item of a message that was written with a value. -/
structure Stored (m : Message) (value : Bytes) (item : Message) : Prop where
  metadata : item.metadata = m.metadata
  content : item.content = value
  failure : item.failure = m.failure

/-- The answer to a lookup, by the reply of the driver: one of another length is refused. -/
inductive LookedUp (batch : List Message) (reply : List (Option Bytes)) :
    Except Failure (List Message) → Prop
  | items (items : List Message) (length : reply.length = batch.length)
      (each : PlaceByPlace batch reply Found items) : LookedUp batch reply (.ok items)
  | refused (cause : Cause) (length : reply.length ≠ batch.length) :
      LookedUp batch reply (.error (.transport "batch_get" none cause))

/-- The answer to a writing of values. -/
inductive Written (batch : List Message) (values : List Bytes) :
    Except Failure (List Message) → Prop
  | items (items : List Message) (each : PlaceByPlace batch values Stored items) :
      Written batch values (.ok items)

theorem found_answer (m : Message) (value? : Option Bytes) : Found m value? (answer m value?) := by
  cases value? with
  | none => exact ⟨rfl, nofun, fun _ => ⟨rfl, rfl⟩⟩
  | some value =>
    refine ⟨rfl, ?_, nofun⟩
    rintro _ ⟨⟩
    exact ⟨rfl, rfl⟩

theorem stored_setContent (m : Message) (value : Bytes) : Stored m value (m.setContent value) :=
  ⟨rfl, rfl, rfl⟩

variable (p)

/-- What a batch comes to over a client that is up when all of it resolves: one command, with what
was found for the messages in their order, and an answer that is theirs place by place. -/
def KeepsItems (ctx : Context) (batch : List Message) (t : Tick) (d : Desk δ) : Prop :=
  ∃ keys, d.resolvers.key.Answers batch keys ∧
    match p.operation with
    | .get => p.OneCall ctx batch t d (.batchGet keys) "batch_get" (LookedUp batch)
    | .delete =>
      p.OneCall ctx batch t d (.batchDelete keys) "batch_delete" fun _ r => r = .ok batch
    | .put => ∃ valueOf values pairs, d.resolvers.content = some valueOf ∧
      valueOf.Answers batch values ∧ pairs.map Prod.fst = keys ∧ pairs.map Prod.snd = values ∧
        p.OneCall ctx batch t d (.batchPut pairs) "batch_put" fun _ r => Written batch values r

/-- How the judgement of a reply to a lookup comes out. -/
def judgeLookup (batch : List Message) (keys : List Bytes) (reply : List (Option Bytes)) :
    Except Failure (List Message) :=
  if reply.length ≠ keys.length then .error (lengthMismatch reply.length keys.length)
  else .ok (List.zipWith answer batch reply)

theorem lookUp_eq (ctx : Context) (batch : List Message) (keys : List Bytes) :
    p.lookUp ctx batch keys =
      p.judged ctx (.batchGet keys) "batch_get" (judgeLookup batch keys) := by
  rw [lookUp, judged]
  congr 1
  funext reply
  rw [judgeLookup]
  split
  · rfl
  · rfl

theorem lookedUp_judgeLookup {keys : List Bytes} (hk : keys.length = batch.length)
    (reply : List (Option Bytes)) : LookedUp batch reply (judgeLookup batch keys reply) := by
  rw [judgeLookup, hk]
  split
  · rename_i h
    exact .refused _ h
  · rename_i h
    have length : reply.length = batch.length := Decidable.not_not.1 h
    exact .items _ length (placeByPlace_zipWith length found_answer)

/-- Over a client that is up, a batch that resolves is one command, and its outcome stands message
by message at the place of the message. -/
theorem process_keeps_items (hb : batch ≠ []) (hl : d.link.phase = .connected)
    (hc : ctx.isCancelled t = false) (hk : d.resolvers.key.ResolvesAll batch)
    (hv : p.operation = .put →
      ∃ valueOf, d.resolvers.content = some valueOf ∧ valueOf.ResolvesAll batch) :
    p.KeepsItems ctx batch t d := by
  obtain ⟨⟨keyOf, contents⟩, link⟩ := d
  obtain ⟨keys, hkeys, answers⟩ := Resolver.resolveAll_of_resolvesAll hk
  have found := settles_keys hkeys contents link
  refine ⟨keys, answers, ?_⟩
  have asked : p.course ctx batch t ⟨⟨keyOf, contents⟩, link⟩ =
      (observed "processor" p.operation.name (p.operate ctx batch keys)).run.run none t
        ⟨⟨keyOf.after batch, contents⟩, link⟩ := by
    rw [course, p.process_of_ne_nil hb, found.run_observed_bind]
  cases ho : p.operation with
  | get =>
    have operation : p.operate ctx batch keys = p.judged ctx (.batchGet keys) "batch_get"
        (judgeLookup batch keys) := by rw [operate, ho, ← lookUp_eq]
    rw [operation] at asked
    exact oneCall_of_judged hl hc (lookedUp_judgeLookup answers.length) asked
  | delete =>
    have operation : p.operate ctx batch keys = p.judged ctx (.batchDelete keys) "batch_delete"
        fun _ => .ok batch := by
      rw [operate, ho]
      rfl
    rw [operation] at asked
    exact oneCall_of_judged hl hc (fun _ => rfl) asked
  | put =>
    obtain ⟨valueOf, rfl, hvalues⟩ := hv ho
    obtain ⟨values, hfound, valueAnswers⟩ := Resolver.resolveAll_of_resolvesAll hvalues
    have both : keys.length = values.length := answers.length.trans valueAnswers.length.symm
    have operation : p.operate ctx batch keys = resolveContents batch >>= fun values =>
        p.judged ctx (.batchPut (keys.zip values)) "batch_put" fun _ =>
          .ok (List.zipWith Message.setContent batch values) := by
      rw [operate, ho]
      rfl
    rw [operation, (settles_contents hfound (keyOf.after batch) link).run_observed_bind] at asked
    exact ⟨valueOf, values, keys.zip values, rfl, valueAnswers,
      List.map_fst_zip (Nat.le_of_eq both), List.map_snd_zip (Nat.le_of_eq both.symm),
      oneCall_of_judged hl hc
        (fun _ => .items _ (placeByPlace_zipWith valueAnswers.length stored_setContent)) asked⟩

/-- A desk whose client is up, over a store that holds one value behind a script. -/
def stocked (script : Script) : Desk (Scripted (Clocked Memory)) :=
  ⟨⟨.content, none⟩, .connected, script, 0, Table.empty.insert [1] ⟨[9], none⟩, true⟩

/-- Three messages, of which two have the same key and one comes with a failure of its own. -/
def trio : List Message :=
  [{ content := [1], metadata := [("a", "x")], failure := some .keyAlreadyExists },
    { content := [2] }, { content := [1] }]

/-- A lookup of messages with a key that stands twice, answered in full and by two entries only. -/
theorem process_keeps_items_of_short_reply :
    let p : Processor (Scripted (Clocked Memory)) := ⟨Connection.rehearsed, .get⟩
    (∃ items, (p.course {} trio 0 (stocked [])).finished = some (.ok items, 0) ∧
      PlaceByPlace trio [some [9], none, some [9]] Found items) ∧
    ∃ cause, (p.course {} trio 0 (stocked [("batch_get", [{ resize := some 2 }])])).finished =
      some (.error (.transport "batch_get" none cause), 0) := by
  intro p
  have kept (script : Script) : p.KeepsItems {} trio 0 (stocked script) :=
    p.process_keeps_items (by simp [trio]) rfl rfl (fun m _ => ⟨m.content, rfl⟩) nofun
  have permits : Context.Permits {} (p.conn.deadline {}) 0 0 := ⟨by decide, rfl⟩
  have keys_eq {keys : List Bytes} (h : Resolver.content.Answers trio keys) :
      keys = [[1], [2], [1]] := by
    have all : Resolver.content.ResolvesAll trio := fun m _ => ⟨m.content, rfl⟩
    obtain ⟨answers, found, ha⟩ := Resolver.resolveAll_of_resolvesAll all
    cases found
    exact h.unique ha
  refine ⟨?_, ?_⟩
  · obtain ⟨keys, answers, call⟩ := kept []
    obtain rfl := keys_eq answers
    obtain ⟨r, answer, judged⟩ := call.replied [some [9], none, some [9]] 0 rfl permits
    cases judged with
    | items items _ each => exact ⟨items, answer, each⟩
    | refused cause length => exact absurd rfl length
  · obtain ⟨keys, answers, call⟩ := kept [("batch_get", [{ resize := some 2 }])]
    obtain rfl := keys_eq answers
    obtain ⟨r, answer, judged⟩ := call.replied [some [9], none] 0 rfl permits
    cases judged with
    | items items length => cases length
    | refused cause length => exact ⟨cause, answer⟩

end Processor

end KvBridge
