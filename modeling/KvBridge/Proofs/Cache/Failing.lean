import KvBridge.Proofs.Cache.Reference
import KvBridge.Proofs.Connection.Request
import KvBridge.Store.Memory
import KvBridge.Store.Scripted

/-!
# What a caller is told of a driver that fails

Over a client that is up, a call on a key gives the driver commands one after the other, each by
the replies to those before it, and tells the failure of each under a name (`Plan`). As soon as a
command fails in time the call is over: its answer has the cause of the driver, the key as text and
that name, and nothing is given to the driver any more (`Plan.run_call_of_failed`); and no other
call is answered with a failure of the driver (`Plan.failed_of_run_call`).

The name is that of the call, for each command of each call but one: a cache that adds by looking
first and writing then tells a failed write as one of `set` (`Cache.failures_told`).

* `Plan.Asks`: the commands that a plan comes to give;
* `Cache.plan`, `Cache.call_eq_plan`: the plans of the calls to a cache;
* `Cache.TellsFailures`: what is told of a driver that fails.
-/

namespace KvBridge

variable {α δ : Type}

/-! ## Plans -/

/-- What a call on a key does over a client that is up. -/
inductive Plan (α : Type)
  /-- It is over. -/
  | answer (r : Except Failure α)
  /-- It gives a command, whose failure it tells under a name, and goes on by the reply. -/
  | ask (name : String) (c : Command) (next : c.Reply → Plan α)

/-- A command that is given to the driver: the name under which its failure is told, when and in
which state of the driver, and what was told before. -/
structure Asked (δ : Type) where
  name : String
  command : Command
  tick : Tick
  store : δ
  before : List Event

/-- The driver fails the command in time. -/
structure Asked.Fails (asked : Asked δ) (conn : Connection δ) (ctx : Context) (cause : Cause)
    (u : Tick) : Prop where
  replied : (conn.driver.unhurried asked.command asked.tick asked.store).finished =
    some (.error cause, u)
  inTime : ctx.Permits (conn.deadline ctx) asked.tick u

namespace Plan

/-- The plan of a call on a key, carried out over a connection. -/
def call (conn : Connection δ) (ctx : Context) (key : Bytes) : Plan α → Call (Link δ) α
  | .answer r => ExceptT.mk (.done r)
  | .ask name c next =>
    conn.perform ctx c (.transportForKey name key) >>= fun reply => (next reply).call conn ctx key

/-- From a tick and a state of the driver on, the plan comes to give a command: at once, or when
the driver has replied to the first one in time. -/
inductive Asks (conn : Connection δ) (ctx : Context) : Plan α → Tick → δ → Asked δ → Prop
  | first (name : String) (c : Command) (next : c.Reply → Plan α) (t : Tick) (store : δ) :
    Asks conn ctx (.ask name c next) t store ⟨name, c, t, store, []⟩
  | later {name : String} {c : Command} {next : c.Reply → Plan α} {t u : Tick} {store store' : δ}
    {reply : c.Reply} {es : List Event} {asked : Asked δ}
    (replied : conn.driver.unhurried c t store = ⟨some (.ok reply, u), store', es⟩)
    (inTime : ctx.Permits (conn.deadline ctx) t u) (h : Asks conn ctx (next reply) u store' asked) :
    Asks conn ctx (.ask name c next) t store
      { asked with before := .command c :: es ++ asked.before }

/-- No answer of the plan itself is a failure of the driver. -/
def BlamesNobody : Plan α → Prop
  | .answer r => ∀ name key cause, r ≠ .error (.transport name key cause)
  | .ask _ _ next => ∀ reply, (next reply).BlamesNobody

variable {conn : Connection δ} {ctx : Context} {key : Bytes} {p : Plan α} {t u : Tick} {store : δ}

/-- A command that succeeds in time is followed by the rest of the plan. -/
theorem run_call_ask_of_ok {name : String} {c : Command} {next : c.Reply → Plan α}
    {reply : c.Reply} {store' : δ} {es : List Event}
    (replied : conn.driver.unhurried c t store = ⟨some (.ok reply, u), store', es⟩)
    (inTime : ctx.Permits (conn.deadline ctx) t u) :
    ((ask name c next).call conn ctx key).run.run none t ⟨.connected, store⟩ =
      (((next reply).call conn ctx key).run.run none u ⟨.connected, store'⟩).after
        (.command c :: es) := by
  rw [call, Call.run_bind, Connection.run_perform_of_connected rfl,
    Connection.run_request_of_permits replied inTime, Timed.Outcome.andThen_some]
  rfl

/-- A command that fails in time is the last one. -/
theorem run_call_ask_of_error {name : String} {c : Command} {next : c.Reply → Plan α}
    {cause : Cause} {store' : δ} {es : List Event}
    (replied : conn.driver.unhurried c t store = ⟨some (.error cause, u), store', es⟩)
    (inTime : ctx.Permits (conn.deadline ctx) t u) :
    ((ask name c next).call conn ctx key).run.run none t ⟨.connected, store⟩ =
      ⟨some (.error (.transportForKey name key cause), u), ⟨.connected, store'⟩,
        .command c :: es⟩ := by
  rw [call, Call.run_bind, Connection.run_perform_of_connected rfl,
    Connection.run_request_of_permits replied inTime, Timed.Outcome.andThen_some]
  exact congrArg (Timed.Outcome.mk _ _) (List.append_nil _)

/-- A command that is interrupted is the last one, too. -/
theorem run_call_ask_of_interrupted {name : String} {c : Command} {next : c.Reply → Plan α}
    {f : Failure} {o : Timed.Outcome Event (Link δ) (Except Failure c.Reply)}
    (ho : (conn.request ctx c (.transportForKey name key)).run.run none t ⟨.connected, store⟩ = o)
    (cut : o.finished = some (.error f, u)) :
    ((ask name c next).call conn ctx key).run.run none t ⟨.connected, store⟩ =
      ⟨some (.error f, u), o.state, o.events⟩ := by
  rw [call, Call.run_bind, Connection.run_perform_of_connected rfl, ho, Timed.Outcome.andThen, cut]
  exact congrArg (Timed.Outcome.mk _ _) (List.append_nil _)

/-- A call whose command fails in time is over with that failure, and gives no other command. -/
theorem run_call_of_failed {asked : Asked δ} {cause : Cause}
    (asks : p.Asks conn ctx t store asked) (fails : asked.Fails conn ctx cause u) :
    (p.call conn ctx key).run.run none t ⟨.connected, store⟩ =
      let o := conn.driver.unhurried asked.command asked.tick asked.store
      ⟨some (.error (.transportForKey asked.name key cause), u), ⟨.connected, o.state⟩,
        asked.before ++ .command asked.command :: o.events⟩ := by
  induction asks with
  | first name c next t store =>
    refine run_call_ask_of_error ?_ fails.inTime
    rw [← fails.replied]
  | later replied inTime _ ih =>
    rw [run_call_ask_of_ok replied inTime, ih ⟨fails.replied, fails.inTime⟩]
    simp [Timed.Outcome.after]

/-- Who is answered with a failure of the driver has given a command that failed in time. -/
theorem failed_of_run_call {name : String} {shown : Option String} {cause : Cause}
    (hp : p.BlamesNobody)
    (h : ((p.call conn ctx key).run.run none t ⟨.connected, store⟩).finished =
      some (.error (.transport name shown cause), u)) :
    ∃ asked, p.Asks conn ctx t store asked ∧ asked.Fails conn ctx cause u := by
  induction p generalizing t store with
  | answer r =>
    cases h
    exact absurd rfl (hp name shown cause)
  | ask own c next ih =>
    obtain ⟨reply, v, store', es, replied, inTime⟩ | ⟨f, v, interrupted, cut⟩ :=
      conn.replied_or_interrupted ctx c (.transportForKey own key) t ⟨.connected, store⟩
    · cases reply with
      | ok reply =>
        rw [run_call_ask_of_ok replied inTime] at h
        obtain ⟨asked, asks, fails⟩ := ih reply (hp reply) h
        exact ⟨_, .later replied inTime asks, fails.replied, fails.inTime⟩
      | error cause' =>
        rw [run_call_ask_of_error replied inTime] at h
        cases h
        exact ⟨_, .first _ c next t store, congrArg Timed.Outcome.finished replied, inTime⟩
    · rw [run_call_ask_of_interrupted rfl cut] at h
      cases h
      cases interrupted

/-- Each command that a call gives is one that the plan comes to. -/
theorem asks_of_mem_commands {command : Command} (hq : conn.driver.Quiet)
    (h : command ∈ ((p.call conn ctx key).run.run none t ⟨.connected, store⟩).commands) :
    ∃ asked, p.Asks conn ctx t store asked ∧ asked.command = command := by
  induction p generalizing t store with
  | answer r => cases h
  | ask own c next ih =>
    have first : command = c → ∃ asked, (ask own c next).Asks conn ctx t store asked ∧
        asked.command = command := by
      rintro rfl
      exact ⟨_, .first own command next t store, rfl⟩
    obtain ⟨reply, u, store', es, replied, inTime⟩ | ⟨f, u, -, cut⟩ :=
      conn.replied_or_interrupted ctx c (.transportForKey own key) t ⟨.connected, store⟩
    · have quiet := hq.commands_unhurried c t store
      rw [replied, Timed.Outcome.commands] at quiet
      cases reply with
      | ok reply =>
        rw [run_call_ask_of_ok replied inTime, Timed.Outcome.commands_after, List.filterMap_cons,
          quiet] at h
        obtain rfl | h := List.mem_cons.1 h
        · exact first rfl
        · obtain ⟨asked, asks, rfl⟩ := ih reply h
          exact ⟨_, .later replied inTime asks, rfl⟩
      | error cause =>
        rw [run_call_ask_of_error replied inTime, Timed.Outcome.commands, List.filterMap_cons,
          quiet] at h
        exact first (List.mem_singleton.1 h)
    · rw [run_call_ask_of_interrupted rfl cut] at h
      exact first (List.mem_singleton.1 (conn.commands_request hq ctx c _ t _ h))

end Plan

/-! ## Calls to a cache -/

/-- A call to a cache on a key. -/
inductive DataCall
  | get (key : Bytes)
  | set (key value : Bytes) (ttl : Option Duration)
  | add (key value : Bytes) (ttl : Option Duration)
  | delete (key : Bytes)
deriving DecidableEq, Repr

namespace DataCall

def toCall : DataCall → CacheCall
  | .get key => .get key
  | .set key value ttl => .set key value ttl
  | .add key value ttl => .add key value ttl
  | .delete key => .delete key

/-- The name of the operation. -/
def name : DataCall → String
  | .get .. => "get"
  | .set .. => "set"
  | .add .. => "add"
  | .delete .. => "delete"

def key : DataCall → Bytes
  | .get key | .set key _ _ | .add key _ _ | .delete key => key

def isAdd : DataCall → Bool
  | .add .. => true
  | _ => false

end DataCall

/-- Writing a value that lives so long. -/
def Plan.store (key value : Bytes) : Option Duration → Plan Unit
  | none => .ask "set" (.put key value) fun _ => .answer (.ok ())
  | some ttl => .ask "set" (.putWithTtl key value ttl) fun _ => .answer (.ok ())

namespace Cache

variable (cache : Cache δ)

/-- What a call does over a client that is up. -/
def plan : (c : DataCall) → Plan c.toCall.Reply
  | .get key => .ask "get" (.get key) fun
    | some value => .answer (.ok value)
    | none => .answer (.error .keyNotFound)
  | .set key value ttl => .store key value (cache.effectiveTtl ttl)
  | .add key value ttl =>
    if cache.atomicAdd then
      .ask "add" (.compareAndSwap key none value (cache.effectiveTtl ttl)) fun outcome =>
        .answer (if outcome.swapped then .ok () else .error .keyAlreadyExists)
    else
      .ask "add" (.get key) fun
        | some _ => .answer (.error .keyAlreadyExists)
        | none => .store key value (cache.effectiveTtl ttl)
  | .delete key => .ask "delete" (.delete key) fun _ => .answer (.ok ())

theorem call_store (ctx : Context) (key value : Bytes) (ttl : Option Duration) :
    (Plan.store key value ttl).call cache.conn ctx key = cache.store ctx key value ttl := by
  cases ttl with
  | none => exact Call.bind_answer _
  | some ttl => exact Call.bind_answer _

/-- A call carries out its plan. -/
theorem call_eq_plan (ctx : Context) (c : DataCall) :
    cache.call ctx c.toCall =
      observed "cache" c.name ((cache.plan c).call cache.conn ctx c.key) := by
  cases c with
  | get key =>
    refine congrArg (observed "cache" "get") (congrArg _ (funext fun found => ?_))
    cases found with
    | none => rfl
    | some value => rfl
  | set key value ttl =>
    exact congrArg (observed "cache" "set") (cache.call_store ctx key value _).symm
  | add key value ttl =>
    refine congrArg (observed "cache" "add") ?_
    rw [plan]
    split
    · refine congrArg _ (funext fun outcome => ?_)
      obtain ⟨previous, _ | _⟩ : Swap := outcome
      · rfl
      · rfl
    · refine congrArg _ (funext fun found => ?_)
      cases found with
      | none => exact (cache.call_store ctx key value _).symm
      | some value => rfl
  | delete key => exact congrArg (observed "cache" "delete") (Call.bind_answer _).symm

/-- How a call goes. -/
def course (ctx : Context) (c : DataCall) (t : Tick) (l : Link δ) :
    Timed.Outcome Event (Link δ) (Except Failure c.toCall.Reply) :=
  (cache.call ctx c.toCall).run.run none t l

/-- The call comes to give a command. -/
def Gives (ctx : Context) (c : DataCall) (t : Tick) (store : δ) (asked : Asked δ) : Prop :=
  (cache.plan c).Asks cache.conn ctx t store asked

/-- The command is the write of a call that adds by looking first. -/
structure IsLateWrite (c : DataCall) (command : Command) : Prop where
  racy : cache.atomicAdd = false
  adds : c.isAdd = true
  writes : command ≠ .get c.key

variable {cache} {ctx : Context} {c : DataCall} {t u : Tick} {store : δ} {asked : Asked δ}

theorem asks_store {key value : Bytes} {ttl : Option Duration}
    (h : (Plan.store key value ttl).Asks cache.conn ctx t store asked) :
    asked.name = "set" ∧ asked.before = [] ∧ asked.command ≠ .get key := by
  cases ttl with
  | none =>
    cases h with
    | first => exact ⟨rfl, rfl, nofun⟩
    | later _ _ h => cases h
  | some ttl =>
    cases h with
    | first => exact ⟨rfl, rfl, nofun⟩
    | later _ _ h => cases h

/-- An addition that has looked in vain comes to give what a write gives. -/
theorem gives_of_missing {key value : Bytes} {ttl : Option Duration} {store' : δ} {es : List Event}
    (racy : cache.atomicAdd = false)
    (looked : cache.conn.driver.unhurried (.get key) t store = ⟨some (.ok none, u), store', es⟩)
    (inTime : ctx.Permits (cache.conn.deadline ctx) t u)
    (h : (Plan.store key value (cache.effectiveTtl ttl)).Asks cache.conn ctx u store' asked) :
    cache.Gives ctx (.add key value ttl) t store
      { asked with before := .command (.get key) :: es ++ asked.before } := by
  rw [Gives, plan, racy]
  exact .later looked inTime h

/-- A call gives its first command under its own name. A second one is the write after a look. -/
theorem gives_cases (h : cache.Gives ctx c t store asked) :
    (asked.name = c.name ∧ asked.before = [] ∧ ¬ cache.IsLateWrite c asked.command) ∨
    (asked.name = "set" ∧ cache.IsLateWrite c asked.command ∧ asked.before =
      .command (.get c.key) :: (cache.conn.driver.unhurried (.get c.key) t store).events) := by
  cases c with
  | get key =>
    cases h with
    | first => exact .inl ⟨rfl, rfl, fun late => nomatch late.adds⟩
    | @later _ _ _ _ _ _ _ reply _ _ _ _ h =>
      cases reply with
      | none => cases h
      | some value => cases h
  | set key value ttl =>
    obtain ⟨name, before, -⟩ := asks_store h
    exact .inl ⟨name, before, fun late => nomatch late.adds⟩
  | add key value ttl =>
    rw [Gives, plan] at h
    split at h
    · rename_i atomic
      cases h with
      | first => exact .inl ⟨rfl, rfl, fun late => nomatch atomic.symm.trans late.racy⟩
      | later _ _ h => cases h
    · rename_i racy
      cases h with
      | first => exact .inl ⟨rfl, rfl, fun late => late.writes rfl⟩
      | @later _ _ _ _ _ _ _ reply _ _ replied _ h =>
        cases reply with
        | some value => cases h
        | none =>
          obtain ⟨name, before, writes⟩ := asks_store h
          refine .inr ⟨name, ⟨Bool.eq_false_iff.2 racy, rfl, writes⟩, ?_⟩
          have told : cache.conn.driver.unhurried (.get (DataCall.add key value ttl).key) t store =
            _ := replied
          rw [told]
          exact (congrArg _ before).trans (List.append_nil _)
  | delete key =>
    cases h with
    | first => exact .inl ⟨rfl, rfl, fun late => nomatch late.adds⟩
    | later _ _ h => cases h

theorem blamesNobody_plan (c : DataCall) : (cache.plan c).BlamesNobody := by
  have store (key value : Bytes) (ttl : Option Duration) :
      (Plan.store key value ttl).BlamesNobody := by
    cases ttl <;> exact fun _ _ _ _ => nofun
  cases c with
  | get key =>
    intro found
    cases found <;> exact fun _ _ _ => nofun
  | set key value ttl => exact store key value _
  | add key value ttl =>
    rw [plan]
    split
    · rintro ⟨previous, _ | _⟩ <;> exact fun _ _ _ => nofun
    · intro found
      cases found with
      | none => exact store key value _
      | some value => exact fun _ _ _ => nofun
  | delete key => exact fun _ _ _ _ => nofun

theorem finished_course (l : Link δ) : (cache.course ctx c t l).finished =
    (((cache.plan c).call cache.conn ctx c.key).run.run none t l).finished := by
  rw [course, call_eq_plan, finished_observed]

theorem commands_course (l : Link δ) : (cache.course ctx c t l).commands =
    (((cache.plan c).call cache.conn ctx c.key).run.run none t l).commands := by
  rw [course, call_eq_plan, commands_observed]

/-- A command that fails in time ends the call. -/
theorem course_of_failed {cause : Cause} (gives : cache.Gives ctx c t store asked)
    (fails : asked.Fails cache.conn ctx cause u) :
    (cache.course ctx c t ⟨.connected, store⟩).finished =
      some (.error (.transport asked.name (some (Utf8.decodeLossy c.key)) cause), u) ∧
    (cache.conn.driver.Quiet → (cache.course ctx c t ⟨.connected, store⟩).commands =
      asked.before.filterMap Event.command? ++ [asked.command]) := by
  rw [finished_course, commands_course, Plan.run_call_of_failed gives fails]
  refine ⟨rfl, fun hq => ?_⟩
  rw [Timed.Outcome.commands, List.filterMap_append, List.filterMap_cons, ← Timed.Outcome.commands,
    hq.commands_unhurried]
  rfl

/-- What is told of a driver that fails when a call is made. -/
structure TellsFailures (cache : Cache δ) (ctx : Context) (c : DataCall) (t : Tick) (l : Link δ) :
    Prop where
  /-- A command that fails in time ends the call. It is told under the name of the call, and no
  other command is given. -/
  told : ∀ asked cause u, cache.Gives ctx c t l.store asked → asked.Fails cache.conn ctx cause u →
    ¬ cache.IsLateWrite c asked.command →
      (cache.course ctx c t l).finished =
        some (.error (.transport c.name (some (Utf8.decodeLossy c.key)) cause), u) ∧
      (cache.conn.driver.Quiet → (cache.course ctx c t l).commands = [asked.command])
  /-- So does the write after a look, which is the last command, but is told under another name. -/
  late : ∀ asked cause u, cache.Gives ctx c t l.store asked → asked.Fails cache.conn ctx cause u →
    cache.IsLateWrite c asked.command →
      (cache.course ctx c t l).finished =
        some (.error (.transport "set" (some (Utf8.decodeLossy c.key)) cause), u) ∧
      (cache.conn.driver.Quiet →
        (cache.course ctx c t l).commands = [.get c.key, asked.command])
  /-- These are all the commands that the driver is given. -/
  given : cache.conn.driver.Quiet → ∀ command ∈ (cache.course ctx c t l).commands,
    ∃ asked, cache.Gives ctx c t l.store asked ∧ asked.command = command
  /-- Nobody else is answered with a failure of the driver. -/
  only : ∀ name shown cause u, (cache.course ctx c t l).finished =
    some (.error (.transport name shown cause), u) →
      ∃ asked, cache.Gives ctx c t l.store asked ∧ asked.Fails cache.conn ctx cause u

/-- A failure of the driver is told under the name of the call, but for the write of a call that
adds by looking first, which is told as one of another call. -/
theorem failures_told (cache : Cache δ) (ctx : Context) (c : DataCall) (t : Tick) {l : Link δ}
    (hl : l.phase = .connected) : cache.TellsFailures ctx c t l := by
  obtain ⟨_, store⟩ := l
  cases hl
  refine ⟨fun asked cause u gives fails early => ?_, fun asked cause u gives fails isLate => ?_,
    fun hq command h => Plan.asks_of_mem_commands hq (commands_course _ ▸ h),
    fun name shown cause u h =>
      Plan.failed_of_run_call (blamesNobody_plan c) (finished_course _ ▸ h)⟩
  · obtain ⟨name, before, -⟩ | ⟨-, isLate, -⟩ := gives_cases gives
    · have ended := course_of_failed gives fails
      rwa [name, before] at ended
    · exact absurd isLate early
  · obtain ⟨-, -, early⟩ | ⟨name, -, before⟩ := gives_cases gives
    · exact absurd isLate early
    · obtain ⟨answer, given⟩ := course_of_failed gives fails
      rw [name] at answer
      refine ⟨answer, fun hq => ?_⟩
      rw [given hq, before, List.filterMap_cons, ← Timed.Outcome.commands,
        hq.commands_unhurried]
      rfl

/-- A cache over a store in memory behind a script, whose conditional writes are not atomic. -/
def racy : Cache (Scripted (Clocked Memory)) :=
  ⟨.ofConfig (Scripted.driver (Memory.driver false)) ⟨1000, ⟨3, 100⟩⟩, none⟩

/-- A client that is up, over an empty store that has no room for another value. -/
def full : Link (Scripted (Clocked Memory)) :=
  ⟨.connected, [("put", [{ fail := some (.text "disk full") }])], 0, .empty, true⟩

/-- The write of an addition that has looked in vain. -/
def lateWrite : Asked (Scripted (Clocked Memory)) :=
  ⟨"set", .put [107] [118], 0, (racy.conn.driver.unhurried (.get [107]) 0 full.store).state,
    [.command (.get [107])]⟩

theorem gives_lateWrite : racy.Gives {} (.add [107] [118] none) 0 full.store lateWrite := by
  have looked : racy.conn.driver.unhurried (.get [107]) 0 full.store =
      ⟨some (.ok none, 0), lateWrite.store, []⟩ := rfl
  have writes : (Plan.store [107] [118] (racy.effectiveTtl none)).Asks racy.conn {} 0
      lateWrite.store ⟨"set", .put [107] [118], 0, lateWrite.store, []⟩ := .first ..
  exact gives_of_missing rfl looked ⟨Nat.zero_le _, rfl⟩ writes

theorem fails_lateWrite : lateWrite.Fails racy.conn {} (.text "disk full") 0 :=
  ⟨rfl, Nat.zero_le _, rfl⟩

/-- An addition to a full store fails as a call to `set`, which nobody has made. -/
theorem added_fails_as_set :
    ¬ ∀ (c : DataCall) (asked : Asked (Scripted (Clocked Memory))) (cause : Cause) (u : Tick),
      racy.Gives {} c 0 full.store asked → asked.Fails racy.conn {} cause u →
        (racy.course {} c 0 full).finished =
          some (.error (.transport c.name (some (Utf8.decodeLossy c.key)) cause), u) := by
  intro h
  have told := h (.add [107] [118] none) lateWrite _ _ gives_lateWrite fails_lateWrite
  have answer : (racy.course {} (.add [107] [118] none) 0 full).finished =
      some (.error (.transport "set" (some (Utf8.decodeLossy [107])) (.text "disk full")), 0) :=
    (course_of_failed gives_lateWrite fails_lateWrite).1
  rw [answer] at told
  simp [DataCall.name] at told

/-- Writing and adding to a full store. -/
theorem failures_told_of_full :
    (racy.course {} (.set [107] [118] none) 0 full).finished =
      some (.error (.transport "set" (some (Utf8.decodeLossy [107])) (.text "disk full")), 0) ∧
    (racy.course {} (.add [107] [118] none) 0 full).finished =
      some (.error (.transport "set" (some (Utf8.decodeLossy [107])) (.text "disk full")), 0) ∧
    (racy.course {} (.add [107] [118] none) 0 full).commands =
      [.get [107], .put [107] [118]] := by
  have quiet : racy.conn.driver.Quiet := Scripted.quiet_driver (Clocked.quiet_driver _ _ _)
  have late : racy.IsLateWrite (.add [107] [118] none) lateWrite.command := ⟨rfl, rfl, nofun⟩
  have set := (racy.failures_told {} (.set [107] [118] none) 0 (l := full) rfl).told
    ⟨"set", .put [107] [118], 0, full.store, []⟩ (.text "disk full") 0 (.first ..)
    ⟨rfl, Nat.zero_le _, rfl⟩ fun late => nomatch late.adds
  have add := (racy.failures_told {} (.add [107] [118] none) 0 (l := full) rfl).late lateWrite
    _ _ gives_lateWrite fails_lateWrite late
  exact ⟨set.1, add.1, add.2 quiet⟩

end Cache

end KvBridge
