import KvBridge.Proofs.Connection.Prompt
import KvBridge.Proofs.Connection.Spell
import KvBridge.Proofs.Timed.Course

/-!
# One request

A request takes its course (`Context.Course`) with what the driver does by itself, as long as it
takes (`Driver.unhurried`). A reply that comes in time is what the request comes to; without one
it is interrupted.

* `Connection.run_request_of_permits`: a reply in time;
* `Connection.replied_or_interrupted`: there is no third way.
-/

namespace KvBridge

variable {δ : Type}

/-- What the driver does with a command that is given as long as it takes. -/
def Driver.unhurried (driver : Driver δ) (c : Command) (t : Tick) (store : δ) :
    Timed.Outcome Event δ (Except Cause c.Reply) :=
  (driver.call c).run none t store

theorem Driver.Quiet.commands_unhurried {driver : Driver δ} (hq : driver.Quiet) (c : Command)
    (t : Tick) (store : δ) : (driver.unhurried c t store).commands = [] := hq c none t store

namespace Connection

variable (conn : Connection δ)

/-- The deadline of a request. -/
def deadline (ctx : Context) : Duration := ctx.deadlineOr conn.requestTimeout

/-- The driver, given a command at `t`, has not replied in time, if at all. -/
def Overruns (ctx : Context) (c : Command) (t : Tick) (store : δ) : Prop :=
  ∀ r u, (conn.driver.unhurried c t store).finished = some (r, u) →
    ¬ ctx.Permits (conn.deadline ctx) t u

/-- What a request does within its deadline. -/
def work (c : Command) (failed : Cause → Failure) : Call (Link δ) c.Reply :=
  ExceptT.mk ((conn.invoke c).bind fun r => .done (r.mapError failed))

/-- Before each horizon, a request does what the driver does. -/
theorem run_work (c : Command) (failed : Cause → Failure) (horizon : Option Tick) (t : Tick)
    (l : Link δ) :
    (conn.work c failed).run.run horizon t l =
      ⟨((conn.driver.call c).run horizon t l.store).finished.map fun r =>
          (r.1.mapError failed, r.2),
        { l with store := ((conn.driver.call c).run horizon t l.store).state },
        .command c :: ((conn.driver.call c).run horizon t l.store).events⟩ := by
  rw [work, ExceptT.run_mk, Timed.run_bind, run_invoke]
  generalize (conn.driver.call c).run horizon t l.store = o
  obtain ⟨_ | ⟨r, u⟩, store, es⟩ := o
  · rfl
  · simp [Timed.Outcome.andThen_some, Timed.run, Timed.Outcome.after]

variable {conn} {ctx : Context} {c : Command} {failed : Cause → Failure} {t u : Tick} {l : Link δ}

theorem finished_work {r : Except Cause c.Reply}
    (h : (conn.driver.unhurried c t l.store).finished = some (r, u)) :
    ((conn.work c failed).run.run none t l).finished = some (r.mapError failed, u) := by
  rw [run_work]
  exact congrArg (Option.map fun r => (r.1.mapError failed, r.2)) h

theorem unhurried_of_finished_work {r : Except Failure c.Reply}
    (h : ((conn.work c failed).run.run none t l).finished = some (r, u)) :
    ∃ reply, (conn.driver.unhurried c t l.store).finished = some (reply, u) ∧
      reply.mapError failed = r := by
  rw [run_work] at h
  obtain ⟨⟨reply, v⟩, hreply, same⟩ := Option.map_eq_some_iff.1 h
  cases same
  exact ⟨reply, hreply, rfl⟩

theorem overruns_work (h : conn.Overruns ctx c t l.store) :
    ctx.Overruns (conn.deadline ctx) (conn.work c failed).run t l := fun _ u hr => by
  obtain ⟨reply, hreply, -⟩ := unhurried_of_finished_work hr
  exact h reply u hreply

theorem course_request (hc : ctx.isCancelled t = false) :
    ctx.Course (conn.deadline ctx) (conn.work c failed).run t l
      ((conn.request ctx c failed).run.run none t l) :=
  ctx.course_orTimeout hc conn.requestTimeout _ l

/-- A command whose reply comes in time is done as the driver does it by itself. -/
theorem run_request_of_permits {r : Except Cause c.Reply} {store : δ} {es : List Event}
    (replied : conn.driver.unhurried c t l.store = ⟨some (r, u), store, es⟩)
    (permits : ctx.Permits (conn.deadline ctx) t u) :
    (conn.request ctx c failed).run.run none t l =
      ⟨some (r.mapError failed, u), { l with store }, .command c :: es⟩ := by
  have ends : (conn.driver.unhurried c t l.store).finished = some (r, u) := by rw [replied]
  have later : t ≤ u := (Timed.run_seen _ (Timed.isSeen_none t) ends).1
  have calm : ctx.isCancelled t = false := Bool.eq_false_iff.2 fun told => by
    have cut := Context.isCancelled_of_le later told
    rw [permits.calm] at cut
    cases cut
  rw [(course_request calm).eq_of_permits (finished_work ends) permits, run_work]
  rw [Driver.unhurried] at replied
  rw [replied]
  rfl

/-- A request that is cancelled when it is made does nothing. -/
theorem run_request_of_isCancelled (hc : ctx.isCancelled t = true) :
    (conn.request ctx c failed).run.run none t l = ⟨some (.error .cancelled, t), l, []⟩ := by
  have cancelled : (ctx.orTimeout conn.requestTimeout).isCancelled t = true := hc
  exact Context.run_within_of_isCancelled cancelled _ none l

/-- The driver replies to a request in time, or the request is interrupted. -/
theorem replied_or_interrupted (conn : Connection δ) (ctx : Context) (c : Command)
    (failed : Cause → Failure) (t : Tick) (l : Link δ) :
    (∃ reply u store es, conn.driver.unhurried c t l.store = ⟨some (reply, u), store, es⟩ ∧
      ctx.Permits (conn.deadline ctx) t u) ∨
    ∃ f u, f.isInterrupted = true ∧
      ((conn.request ctx c failed).run.run none t l).finished = some (.error f, u) := by
  cases hc : ctx.isCancelled t with
  | true =>
    exact .inr ⟨.cancelled, t, rfl, by rw [run_request_of_isCancelled hc]⟩
  | false =>
    have course : ctx.Course (conn.deadline ctx) (conn.work c failed).run t l
        ((conn.request ctx c failed).run.run none t l) := course_request hc
    generalize (conn.request ctx c failed).run.run none t l = o at course
    cases course with
    | done r u ends permits alone =>
      obtain ⟨reply, replied, -⟩ := unhurried_of_finished_work (alone ▸ ends)
      refine .inl ⟨reply, u, (conn.driver.unhurried c t l.store).state,
        (conn.driver.unhurried c t l.store).events, ?_, permits⟩
      rw [← replied]
    | expired => exact .inr ⟨.timeout _, _, rfl, rfl⟩
    | cancelled => exact .inr ⟨.cancelled, _, rfl, rfl⟩

/-- A request gives its command, if anything, to a driver that gives none to itself. -/
theorem commands_request (conn : Connection δ) (hq : conn.driver.Quiet) (ctx : Context)
    (c : Command) (failed : Cause → Failure) (t : Tick) (l : Link δ) :
    ((conn.request ctx c failed).run.run none t l).commands ⊆ [c] := by
  cases hc : ctx.isCancelled t with
  | true =>
    rw [run_request_of_isCancelled hc]
    exact List.nil_subset _
  | false =>
    have course : ctx.Course (conn.deadline ctx) (conn.work c failed).run t l
        ((conn.request ctx c failed).run.run none t l) := course_request hc
    obtain ⟨near, -, told⟩ := course.worked
    rw [Timed.Outcome.commands, told, run_work, List.filterMap_cons]
    exact fun _ h => (hq c near t l.store).symm ▸ h

/-- Over a client that is up, nothing comes before the request. -/
theorem run_perform_of_connected (hl : l.phase = .connected) :
    (conn.perform ctx c failed).run.run none t l =
      (conn.request ctx c failed).run.run none t l := by
  have acquired : Call.Settles (conn.acquire ctx) l (.ok ()) l [] :=
    settles_acquire_of_connected hl
  rw [perform, acquired.run_bind, Timed.Outcome.after_nil]

end Connection

end KvBridge
