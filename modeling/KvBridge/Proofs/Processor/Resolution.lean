import KvBridge.Processor
import KvBridge.Proofs.Timed.Instant
import KvBridge.Proofs.Timed.Triple
import KvBridge.Store.Memory

/-!
# A batch that does not resolve

The keys of a batch are found before its values, and both before the backend is touched. So a batch
in which a message does not resolve fails at once, with the place of the first such message, and
whatever the state of the connection it is left alone (`Processor.process_of_unresolved`). The
resolvers were asked for the messages up to that place and for none after it: one that generates has
drawn an identifier for each of them that has no entry of its name (`Resolver.after`). A batch that
resolves may fail as well, but never for a message that does not resolve.

* `Resolver.FirstRefusal`: the first message that does not resolve;
* `Resolver.Answers`: the answers for a batch, place by place;
* `Resolver.resolveAll_of_firstRefusal`, `Resolver.resolveAll_of_resolvesAll`: what a resolver does
  with a batch;
* `Call.BlamesNone`: calls that do not fail for a message that does not resolve.
-/

namespace KvBridge

variable {σ τ α β δ : Type}

/-! ## Resolving a batch -/

namespace Resolver

/-- The resolver has an answer for the message. -/
def Resolves (r : Resolver) (m : Message) : Prop := ∃ bytes, (r.resolve m).1 = .ok bytes

/-- The resolver has an answer for each message of the batch. -/
def ResolvesAll (r : Resolver) (batch : List Message) : Prop := ∀ m ∈ batch, r.Resolves m

/-- The first message of a batch for which the resolver has no answer, and why it has none. -/
structure FirstRefusal (r : Resolver) (batch : List Message) (i : Nat) (cause : Cause) : Prop where
  refused : ∃ m, batch[i]? = some m ∧ (r.resolve m).1 = .error cause
  earlier : ∀ j < i, ∀ m, batch[j]? = some m → r.Resolves m

/-- How many of the messages have no entry of a name. -/
def untagged (name : String) (ms : List Message) : Nat := ms.countP fun m => (m.tag? name).isNone

/-- The resolver once it was asked for some messages. One that generates has drawn an identifier for
each of them that has no entry of its name; all others stay as they are. -/
def after (r : Resolver) (ms : List Message) : Resolver :=
  match r with
  | .metadata name (some ids) => .metadata name (some (ids.drawMany (untagged name ms)).2)
  | r => r

/-- The answers of the resolver for a batch: the one in each place is for the message in that place,
when the resolver was asked for those before it. -/
structure Answers (r : Resolver) (batch : List Message) (answers : List Bytes) : Prop where
  length : answers.length = batch.length
  each : ∀ (i : Nat) (m : Message), batch[i]? = some m →
    ∃ bytes, answers[i]? = some bytes ∧ ((r.after (batch.take i)).resolve m).1 = .ok bytes

variable {r : Resolver} {batch : List Message} {cause : Cause} {i : Nat}

theorem after_nil (r : Resolver) : r.after [] = r := by
  cases r with
  | metadata name ids => cases ids <;> rfl
  | _ => rfl

/-- What asking for one message does to the resolver. -/
theorem snd_resolve (r : Resolver) (m : Message) : (r.resolve m).2 = r.after [m] := by
  cases r with
  | metadata name ids =>
    cases ids with
    | none =>
      simp only [resolve]
      split <;> simp_all [after]
    | some ids =>
      simp only [resolve, after, untagged, List.countP_singleton]
      cases m.tag? name <;> rfl
  | _ => rfl

theorem after_cons (r : Resolver) (m : Message) (ms : List Message) :
    r.after (m :: ms) = (r.after [m]).after ms := by
  cases r with
  | metadata name ids =>
    cases ids with
    | none => rfl
    | some ids =>
      simp only [after, untagged, List.countP_cons, List.countP_nil]
      cases m.tag? name with
      | none => rfl
      | some text => rfl
  | _ => rfl

/-- A resolver that generates has an answer for every message. -/
theorem resolves_of_generating (name : String) (ids : IdSource) (m : Message) :
    Resolves (.metadata name (some ids)) m := by
  simp only [Resolves, resolve]
  cases m.tag? name with
  | none => exact ⟨_, rfl⟩
  | some text => exact ⟨_, rfl⟩

/-- Whether a message resolves does not depend on what the resolver was asked for before, nor does
why it does not. -/
theorem fst_resolve_after (r : Resolver) (ms : List Message) (m : Message) (cause : Cause) :
    ((r.after ms).resolve m).1 = .error cause ↔ (r.resolve m).1 = .error cause := by
  cases r with
  | metadata name ids =>
    cases ids with
    | none => rfl
    | some ids =>
      have answered (ids : IdSource) : ((metadata name (some ids)).resolve m).1 ≠ .error cause := by
        obtain ⟨bytes, h⟩ := resolves_of_generating name ids m
        rw [h]
        nofun
      exact iff_of_false (answered _) (answered ids)
  | _ => rfl

theorem resolves_iff (r : Resolver) (m : Message) :
    r.Resolves m ↔ ∀ cause, (r.resolve m).1 ≠ .error cause := by
  unfold Resolves
  cases (r.resolve m).1 with
  | error cause => exact iff_of_false nofun fun h => h cause rfl
  | ok bytes => exact iff_of_true ⟨bytes, rfl⟩ nofun

theorem resolves_after (r : Resolver) (ms : List Message) (m : Message) :
    (r.after ms).Resolves m ↔ r.Resolves m := by
  rw [resolves_iff, resolves_iff]
  exact forall_congr' fun cause => not_congr (r.fst_resolve_after ms m cause)

/-- A batch resolves, or there is a first message that does not. -/
theorem resolvesAll_or_firstRefusal (r : Resolver) (batch : List Message) :
    r.ResolvesAll batch ∨ ∃ i cause, r.FirstRefusal batch i cause := by
  induction batch with
  | nil => exact .inl nofun
  | cons m ms ih =>
    cases hm : (r.resolve m).1 with
    | error cause => exact .inr ⟨0, cause, ⟨m, rfl, hm⟩, nofun⟩
    | ok bytes =>
      obtain h | ⟨i, cause, refused, earlier⟩ := ih
      · exact .inl (List.forall_mem_cons.2 ⟨⟨bytes, hm⟩, h⟩)
      · refine .inr ⟨i + 1, cause, refused, fun j hj m' hm' => ?_⟩
        cases j with
        | zero => exact Option.some.inj hm' ▸ ⟨bytes, hm⟩
        | succ j => exact earlier j (Nat.lt_of_succ_lt_succ hj) m' hm'

/-- A batch that resolves: each message is answered for. -/
theorem resolveFrom_of_resolvesAll (h : r.ResolvesAll batch) (index : Nat) :
    ∃ answers, r.resolveFrom index batch = (.ok answers, r.after batch) ∧
      r.Answers batch answers := by
  induction batch generalizing r index with
  | nil => exact ⟨[], by rw [after_nil, resolveFrom], rfl, nofun⟩
  | cons m ms ih =>
    obtain ⟨⟨bytes, hm⟩, hms⟩ := List.forall_mem_cons.1 h
    have first : r.resolve m = (.ok bytes, r.after [m]) := Prod.ext hm (r.snd_resolve m)
    obtain ⟨rest, hrest, hlen, heach⟩ :=
      ih (r := r.after [m]) (fun m' hm' => (r.resolves_after [m] m').2 (hms m' hm')) (index + 1)
    refine ⟨bytes :: rest, ?_, ?_, fun i m' hm' => ?_⟩
    · rw [resolveFrom, first]
      simp only [hrest, ← after_cons]
      rfl
    · rw [List.length_cons, List.length_cons, hlen]
    · cases i with
      | zero =>
        obtain rfl := Option.some.inj hm'
        exact ⟨bytes, rfl, by rw [List.take_zero, after_nil, hm]⟩
      | succ i =>
        obtain ⟨answer, hanswer, hresolved⟩ := heach i m' hm'
        exact ⟨answer, hanswer, by rw [List.take_succ_cons, after_cons, hresolved]⟩

/-- A batch that does not resolve: its first such message ends it. -/
theorem resolveFrom_of_firstRefusal (h : r.FirstRefusal batch i cause) (index : Nat) :
    r.resolveFrom index batch =
      (.error (.resolve (index + i) cause), r.after (batch.take (i + 1))) := by
  induction batch generalizing r i index with
  | nil =>
    obtain ⟨m, hm, -⟩ := h.refused
    cases hm
  | cons m ms ih =>
    obtain ⟨⟨refused, hrefused, hcause⟩, earlier⟩ := h
    cases i with
    | zero =>
      obtain rfl := Option.some.inj hrefused
      have first : r.resolve m = (.error cause, r.after [m]) := Prod.ext hcause (r.snd_resolve m)
      rw [resolveFrom, first]
      rfl
    | succ i =>
      obtain ⟨bytes, hm⟩ := earlier 0 (Nat.succ_pos i) m rfl
      have first : r.resolve m = (.ok bytes, r.after [m]) := Prod.ext hm (r.snd_resolve m)
      have later : (r.after [m]).FirstRefusal ms i cause :=
        ⟨⟨refused, hrefused, (r.fst_resolve_after [m] refused cause).2 hcause⟩, fun j hj m' hm' =>
          (r.resolves_after [m] m').2 (earlier (j + 1) (Nat.succ_lt_succ hj) m' hm')⟩
      rw [resolveFrom, first]
      simp only [ih later (index + 1), List.take_succ_cons]
      rw [r.after_cons m (ms.take (i + 1)), Nat.add_assoc, Nat.add_comm 1 i]
      rfl

theorem resolveAll_of_resolvesAll (h : r.ResolvesAll batch) :
    ∃ answers, r.resolveAll batch = (.ok answers, r.after batch) ∧ r.Answers batch answers :=
  resolveFrom_of_resolvesAll h 0

theorem resolveAll_of_firstRefusal (h : r.FirstRefusal batch i cause) :
    r.resolveAll batch = (.error (.resolve i cause), r.after (batch.take (i + 1))) := by
  rw [resolveAll, resolveFrom_of_firstRefusal h 0, Nat.zero_add]

/-- What the answers are is determined. -/
theorem Answers.unique {answers others : List Bytes} (h : r.Answers batch answers)
    (h' : r.Answers batch others) : answers = others := by
  refine List.ext_getElem? fun i => ?_
  cases hm : batch[i]? with
  | none =>
    have hi := List.getElem?_eq_none_iff.1 hm
    rw [List.getElem?_eq_none (h.length ▸ hi), List.getElem?_eq_none (h'.length ▸ hi)]
  | some m =>
    obtain ⟨bytes, hbytes, hr⟩ := h.each i m hm
    obtain ⟨bytes', hbytes', hr'⟩ := h'.each i m hm
    rw [hbytes, hbytes', Except.ok.inj (hr.symm.trans hr')]

/-- There is only one first message that does not resolve. -/
theorem FirstRefusal.unique {j : Nat} {other : Cause} (h : r.FirstRefusal batch i cause)
    (h' : r.FirstRefusal batch j other) : i = j ∧ cause = other := by
  have same := congrArg Prod.fst ((resolveAll_of_firstRefusal h).symm.trans
    (resolveAll_of_firstRefusal h'))
  simpa using same

end Resolver

/-! ## Calls that blame no message -/

/-- No run of the call fails for a message that does not resolve. -/
def Call.BlamesNone (x : Call σ α) : Prop :=
  Timed.Triple (fun _ => True) (ExceptT.run x) (fun _ => True)
    fun r _ => ∀ i cause, r ≠ .error (.resolve i cause)

namespace Call.BlamesNone

theorem done {r : Except Failure α} (h : ∀ i cause, r ≠ .error (.resolve i cause)) :
    BlamesNone (ExceptT.mk (.done r) : Call σ α) :=
  Timed.Triple.done r (fun _ h => h) fun _ _ => h

/-- What comes before does not count if its answer does not. -/
theorem after (x : Program σ β) {f : β → Call σ α} (hf : ∀ b, BlamesNone (f b)) :
    BlamesNone (Timed.bind x f) :=
  have any : Timed.Triple (fun _ => True) x (fun _ => True) fun _ _ => True :=
    fun _ _ _ _ => ⟨trivial, fun _ _ _ => trivial⟩
  .bind any hf

/-- What follows may go by the answer of a part that blames none. -/
theorem andThen {x : Call σ β} {f : Except Failure β → Call σ α} (hx : BlamesNone x)
    (hf : ∀ r, (∀ i cause, r ≠ .error (.resolve i cause)) → BlamesNone (f r)) :
    BlamesNone (Timed.bind (ExceptT.run x) f) :=
  Timed.Triple.bind hx fun r => fun horizon t s h => hf r h horizon t s trivial

theorem bind {x : Call σ α} {f : α → Call σ β} (hx : BlamesNone x)
    (hf : ∀ a, BlamesNone (f a)) : BlamesNone (x >>= f) := by
  refine andThen (f := fun r => ExceptT.mk (ExceptT.bindCont f r)) hx fun r hr => ?_
  cases r with
  | ok a => exact hf a
  | error e => exact done fun i cause he => hr i cause (congrArg _ (Except.error.inj he))

theorem within (ctx : Context) {x : Call σ α} (hx : BlamesNone x) :
    BlamesNone (ctx.within (ExceptT.run x) : Call σ α) := by
  refine Timed.Triple.within_answer ctx (fun _ h => h) hx fun why => ?_
  cases why with
  | cancelled => nofun
  | expired => nofun

theorem alone {x : Call σ α} (hx : BlamesNone x) :
    BlamesNone (Timed.alone (ExceptT.run x) : Call σ α) := Timed.Triple.alone hx

theorem answer {x : Call σ α} (hx : BlamesNone x) {horizon : Option Tick} {t u : Tick} {s : σ}
    {r : Except Failure α} (h : (x.run.run horizon t s).finished = some (r, u)) (i : Nat)
    (cause : Cause) : r ≠ .error (.resolve i cause) :=
  (hx horizon t s trivial).2 r u h i cause

end Call.BlamesNone

namespace Connection

variable (conn : Connection δ) (ctx : Context)

theorem blamesNone_guarded (c : Command) {failed : Cause → Failure}
    (hf : ∀ e i cause, failed e ≠ .resolve i cause) : (conn.guarded ctx c failed).BlamesNone := by
  refine .within ctx (.after _ fun r => .done fun i cause he => ?_)
  cases r with
  | ok a => cases he
  | error e => exact hf e i cause (Except.error.inj he)

theorem blamesNone_awaitReady (probe : Context) (left : Nat) :
    (conn.awaitReady ctx probe left).BlamesNone := by
  induction left with
  | zero => exact .done nofun
  | succ left ih =>
    have paused : Call.BlamesNone (ctx.sleep conn.readiness.interval : Call (Link δ) Unit) :=
      .within _ (x := (ExceptT.mk (.wait _ (.done (.ok ()))) : Call (Link δ) Unit))
        (.wait _ (fun _ h => h) (.done _ (fun _ h => h) fun _ _ => nofun))
    refine .andThen (conn.blamesNone_guarded probe .ready nofun) fun r hr => ?_
    split
    · exact .done nofun
    · exact .done nofun
    refine .after _ fun _ => ?_
    split
    · exact .done nofun
    refine .andThen paused fun r hr => ?_
    split
    · exact .done hr
    · exact ih

theorem blamesNone_establish : (conn.establish ctx).BlamesNone :=
  .bind (conn.blamesNone_guarded _ .connect nofun) fun _ => conn.blamesNone_awaitReady ctx _ _

theorem blamesNone_connect : (conn.connect ctx).BlamesNone := by
  refine .alone (.after _ fun up => ?_)
  split
  · exact .done nofun
  refine .andThen (.within ctx (conn.blamesNone_establish ctx)) fun r hr => ?_
  split
  · exact .after _ fun _ => .after _ fun _ => .done nofun
  refine .after _ fun released => ?_
  split
  · exact .done hr
  · exact .after _ fun _ => .done hr

theorem blamesNone_perform (c : Command) {failed : Cause → Failure}
    (hf : ∀ e i cause, failed e ≠ .resolve i cause) : (conn.perform ctx c failed).BlamesNone := by
  have acquired : (conn.acquire ctx).BlamesNone := by
    refine .after _ fun up => ?_
    split
    · exact .done nofun
    · exact conn.blamesNone_connect ctx
  exact .bind acquired fun _ => conn.blamesNone_guarded _ c hf

end Connection

/-! ## Processing a batch -/

namespace Processor

variable (p : Processor δ) {ctx : Context} {batch : List Message} {keyOf valueOf : Resolver}
  {contents : Option Resolver} {link : Link δ}

theorem settles_keys {keyOf' : Resolver} {r : Except Failure (List Bytes)}
    (h : keyOf.resolveAll batch = (r, keyOf')) (contents : Option Resolver) (link : Link δ) :
    Call.Settles (resolveKeys batch) ⟨⟨keyOf, contents⟩, link⟩ r ⟨⟨keyOf', contents⟩, link⟩ [] := by
  have found : Call.Settles (resolveKeys batch) (⟨⟨keyOf, contents⟩, link⟩ : Desk δ) _ _ [] :=
    .act _ _
  simp only [h] at found
  exact found

theorem settles_contents {valueOf' : Resolver} {r : Except Failure (List Bytes)}
    (h : valueOf.resolveAll batch = (r, valueOf')) (keyOf : Resolver) (link : Link δ) :
    Call.Settles (resolveContents batch) ⟨⟨keyOf, some valueOf⟩, link⟩ r
      ⟨⟨keyOf, some valueOf'⟩, link⟩ [] := by
  have found : Call.Settles (resolveContents batch)
    (⟨⟨keyOf, some valueOf⟩, link⟩ : Desk δ) _ _ [] := .act _ _
  simp only [h] at found
  exact found

/-- What is done with the messages of a batch and their keys. -/
def operate (ctx : Context) (batch : List Message) (keys : List Bytes) :
    Call (Desk δ) (List Message) :=
  match p.operation with
  | .get => p.lookUp ctx batch keys
  | .delete => p.delete ctx batch keys
  | .put => p.put ctx batch keys

/-- A batch that is not empty has its keys resolved, and then comes the operation. -/
theorem process_of_ne_nil (hb : batch ≠ []) (ctx : Context) :
    p.process ctx batch =
      observed "processor" p.operation.name (resolveKeys batch >>= p.operate ctx batch) :=
  if_neg (by simpa using hb)

theorem blamesNone_onLink {x : Call (Link δ) α} (hx : x.BlamesNone) :
    (onLink x : Call (Desk δ) α).BlamesNone :=
  Timed.Triple.zoom (fun _ _ => rfl) (fun _ => rfl) (fun _ _ _ => rfl) fun _ _ =>
    Timed.Triple.mono hx (fun _ _ => trivial) (fun _ h => h) fun _ _ h => h

theorem blamesNone_lookUp (ctx : Context) (batch : List Message) (keys : List Bytes) :
    (p.lookUp ctx batch keys).BlamesNone := by
  refine .bind (blamesNone_onLink (p.conn.blamesNone_perform ctx _ nofun)) fun values => ?_
  split
  · exact .done nofun
  · exact .done nofun

theorem blamesNone_delete (ctx : Context) (batch : List Message) (keys : List Bytes) :
    (p.delete ctx batch keys).BlamesNone :=
  .bind (blamesNone_onLink (p.conn.blamesNone_perform ctx _ nofun)) fun _ => .done nofun

/-- Writing blames a message only if a value is not found. -/
theorem finished_put_ne_resolve (ctx : Context) (keys : List Bytes)
    (hv : ∀ valueOf, contents = some valueOf → valueOf.ResolvesAll batch) (horizon : Option Tick)
    (t u : Tick) (i : Nat) (cause : Cause) :
    ((p.put ctx batch keys).run.run horizon t ⟨⟨keyOf, contents⟩, link⟩).finished ≠
      some (.error (.resolve i cause), u) := by
  cases contents with
  | none =>
    have missing : Call.Settles (resolveContents batch) ⟨⟨keyOf, none⟩, link⟩
      (.error contentMissing) ⟨⟨keyOf, none⟩, link⟩ [] := .act _ _
    rw [put, missing.bind_error horizon t]
    nofun
  | some valueOf =>
    obtain ⟨values, found, -⟩ := Resolver.resolveAll_of_resolvesAll (hv valueOf rfl)
    rw [put, (settles_contents found keyOf link).run_bind]
    have written : Call.BlamesNone (onLink (p.conn.perform ctx (.batchPut (keys.zip values))
        (.transport "batch_put" none)) >>= fun _ =>
          (pure (List.zipWith Message.setContent batch values) : Call (Desk δ) _)) :=
      .bind (blamesNone_onLink (p.conn.blamesNone_perform ctx _ nofun)) fun _ => .done nofun
    exact fun h => written.answer h i cause rfl

/-- What a batch comes to, by which of its messages resolve. -/
structure Resolution (ctx : Context) (batch : List Message) (d : Desk δ) : Prop where
  /-- A key is not found: the batch fails at once for the first such message, the link is as it
  was, and the resolver of the keys was asked for the messages up to that one. -/
  key : ¬ d.resolvers.key.ResolvesAll batch →
    ∃ i cause, d.resolvers.key.FirstRefusal batch i cause ∧
      Call.Settles (p.process ctx batch) d (.error (.resolve i cause))
        ⟨⟨d.resolvers.key.after (batch.take (i + 1)), d.resolvers.content⟩, d.link⟩
        [.ended "processor" p.operation.name "error"]
  /-- All keys are found, but not a value that is to be written: the same, and the resolver of the
  keys was asked for all messages. -/
  content : p.operation = .put → d.resolvers.key.ResolvesAll batch →
    ∀ valueOf, d.resolvers.content = some valueOf → ¬ valueOf.ResolvesAll batch →
      ∃ i cause, valueOf.FirstRefusal batch i cause ∧
        Call.Settles (p.process ctx batch) d (.error (.resolve i cause))
          ⟨⟨d.resolvers.key.after batch, some (valueOf.after (batch.take (i + 1)))⟩, d.link⟩
          [.ended "processor" p.operation.name "error"]
  /-- Everything is found: no run fails for a message that does not resolve. -/
  resolved : d.resolvers.key.ResolvesAll batch →
    (p.operation = .put → ∀ valueOf, d.resolvers.content = some valueOf →
      valueOf.ResolvesAll batch) →
    ∀ horizon t i cause u,
      ((p.process ctx batch).run.run horizon t d).finished ≠ some (.error (.resolve i cause), u)

/-- A batch that does not resolve fails at once for the first message that does not, and touches
neither the connection nor the backend. A batch that resolves never fails for a message. -/
theorem process_of_unresolved (ctx : Context) (batch : List Message) (d : Desk δ) :
    p.Resolution ctx batch d := by
  by_cases hb : batch = []
  · subst hb
    exact ⟨fun h => absurd nofun h, fun _ _ _ _ h => absurd nofun h, fun _ _ _ _ _ _ _ => nofun⟩
  obtain ⟨⟨keyOf, contents⟩, link⟩ := d
  refine ⟨fun h => ?_, fun ho hk valueOf hv h => ?_, fun hk hv horizon t i cause u => ?_⟩
  · obtain ⟨i, cause, refused⟩ := (keyOf.resolvesAll_or_firstRefusal batch).resolve_left h
    have found := settles_keys (Resolver.resolveAll_of_firstRefusal refused) contents link
    rw [p.process_of_ne_nil hb]
    exact ⟨i, cause, refused, .observed _ _ found.bind_error⟩
  · obtain ⟨i, cause, refused⟩ := (valueOf.resolvesAll_or_firstRefusal batch).resolve_left h
    obtain rfl : contents = some valueOf := hv
    obtain ⟨keys, hkeys, -⟩ := Resolver.resolveAll_of_resolvesAll hk
    have found := settles_keys hkeys (some valueOf) link
    have missing := settles_contents (Resolver.resolveAll_of_firstRefusal refused)
      (keyOf.after batch) link
    have put : Call.Settles (p.operate ctx batch keys) ⟨⟨keyOf.after batch, some valueOf⟩, link⟩
        (.error (.resolve i cause))
        ⟨⟨keyOf.after batch, some (valueOf.after (batch.take (i + 1)))⟩, link⟩ [] := by
      rw [operate, ho]
      exact missing.bind_error
    rw [p.process_of_ne_nil hb]
    exact ⟨i, cause, refused, .observed _ _ (found.bind_ok put)⟩
  · obtain ⟨keys, found, -⟩ := Resolver.resolveAll_of_resolvesAll hk
    rw [p.process_of_ne_nil hb, finished_observed, (settles_keys found contents link).run_bind,
      operate]
    cases ho : p.operation with
    | get => exact fun h => (p.blamesNone_lookUp ctx batch keys).answer h i cause rfl
    | delete => exact fun h => (p.blamesNone_delete ctx batch keys).answer h i cause rfl
    | put => exact p.finished_put_ne_resolve ctx keys (hv ho) horizon t u i cause

/-- A key is numbered for two of three messages, and then the second one turns out to have no
value. -/
theorem process_of_unresolved_value :
    let keyOf : Resolver := .metadata "key" (some ⟨"id", 1⟩)
    let valueOf : Resolver := .custom fun m =>
      if m.content.isEmpty then .error (.text "empty") else .ok m.content
    let batch : List Message :=
      [{ content := [7], metadata := [("key", "a")] }, { content := [] }, { content := [9] }]
    let p : Processor (Clocked Memory) := ⟨.ofConfig (Memory.driver true) {}, .put⟩
    let link : Link (Clocked Memory) := ⟨.disconnected, 0, .empty⟩
    Call.Settles (p.process {} batch) ⟨⟨keyOf, some valueOf⟩, link⟩
      (.error (.resolve 1 (.text "empty")))
      ⟨⟨.metadata "key" (some ⟨"id", 3⟩), some valueOf⟩, link⟩
      [.ended "processor" "put" "error"] := by
  intro keyOf valueOf batch p link
  have found : keyOf.ResolvesAll batch := fun m _ => Resolver.resolves_of_generating _ _ m
  have first : valueOf.FirstRefusal batch 1 (.text "empty") := by
    refine ⟨⟨_, rfl, rfl⟩, fun j hj m hm => ?_⟩
    obtain rfl : j = 0 := Nat.lt_one_iff.1 hj
    obtain rfl := Option.some.inj hm
    exact ⟨[7], rfl⟩
  have missing : ¬ valueOf.ResolvesAll batch := fun h => by
    obtain ⟨bytes, hbytes⟩ := h { content := [] } (by simp [batch])
    cases hbytes
  obtain ⟨i, cause, refused, settles⟩ :=
    (process_of_unresolved p {} batch ⟨⟨keyOf, some valueOf⟩, link⟩).content rfl found valueOf rfl
      missing
  obtain ⟨rfl, rfl⟩ := refused.unique first
  exact settles

end Processor

end KvBridge
