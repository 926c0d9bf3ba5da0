import Mathlib.Data.Set.Card
import KvBridge.Proofs.Connection.Conduct
import KvBridge.Proofs.Connection.Release

/-!
# One client at a time sets up or releases

Any number of clients each make one call to connect, to close or to acquire over one connection,
whose driver may do anything but give commands itself. In every crowd that they can come to
(`Connection.orderly_of_reaches`) at most one of them has begun to give commands and is not done,
the commands of each stand together, none gives the command to connect while the connection counts
as up, and without a call to close there are at most as many commands to connect as calls that
failed, and one more.

* `Stint`: the commands of one call;
* `Connection.conducts_connect`, `Connection.conducts_close`: what a call keeps to while it is in
  the exclusive part;
* `Course`: the invariant of the crowd.
-/

namespace KvBridge

variable {δ ι : Type}

/-! ## One call -/

/-- The commands of one call, as far as they have been given. -/
inductive Stint : List Command → Prop
  | idle : Stint []
  | setUp (probes : List Command) (h : ∀ c ∈ probes, c = .ready) : Stint (.connect :: probes)
  | released (probes : List Command) (h : ∀ c ∈ probes, c = .ready) :
    Stint (.connect :: (probes ++ [.close]))
  | closed : Stint [.close]

/-- There is at most one command to connect in a stint. -/
theorem Stint.count_connect_le {cs : List Command} (h : Stint cs) : cs.count .connect ≤ 1 := by
  have probes {ps : List Command} (h : ∀ c ∈ ps, c = .ready) : ps.count .connect = 0 := by
    rw [List.count_eq_zero]
    intro hc
    cases h _ hc
  cases h with
  | idle => exact Nat.zero_le 1
  | setUp ps h => rw [List.count_cons_self, probes h]
  | released ps h =>
    rw [List.count_cons_self, List.count_append, probes h]
    decide
  | closed => decide

/-- Where a call is that found a phase and is now in the exclusive part: the commands that it has
given, and the phase by now. -/
structure Underway (call : LifecycleCall) (found : Phase) (cs : List Command) (now : Phase) :
    Prop where
  stint : Stint cs
  up : now = .connected → found = .connected ∨ .connect ∈ cs
  still : call ≠ .close → found = .connected → cs = [] ∧ now = .connected

/-- Where a call is that is about to leave the exclusive part with an answer. -/
structure Through (call : LifecycleCall) (found : Phase) (r : Except Failure Unit)
    (cs : List Command) (now : Phase) : Prop extends Underway call found cs now where
  answer : call ≠ .close → (r = .ok () ↔ now = .connected)

namespace Underway

variable {call : LifecycleCall} {cs : List Command} {found now : Phase}

/-- Nothing has been done yet. -/
theorem start (call : LifecycleCall) (found : Phase) : Underway call found [] found :=
  ⟨.idle, .inl, fun _ h => ⟨rfl, h⟩⟩

/-- A client that was down is down. -/
theorem of_down (h : Stint cs) (hn : now = .disconnected) :
    Underway call .disconnected cs now :=
  ⟨h, fun hu => absurd (hn.symm.trans hu) nofun, nofun⟩

/-- A client has come up. -/
theorem of_up (h : Stint cs) (hc : .connect ∈ cs) : Underway call .disconnected cs now :=
  ⟨h, fun _ => .inr hc, nofun⟩

end Underway

namespace Connection

open Timed (Ensures)

/-- A client may be cut short at any moment, and gives the command to connect only while the
connection counts as down. -/
def exclusion : Terms (Link δ) := ⟨True, fun c l => c = .connect → l.phase = .disconnected⟩

variable {conn : Connection δ} {inv : List Command → Link δ → Prop} {cs : List Command}
  {l : Link δ}

/-- One command within a context: unless it fails before, it is given, and the phase stays. -/
theorem conducts_guarded (hq : conn.driver.Silent) (ctx : Context) (c : Command)
    (failed : Cause → Failure) (ht : exclusion.told c l) (hs : inv cs l)
    (hc : ∀ store, inv (cs ++ [c]) { l with store }) :
    Ensures exclusion (conn.guarded ctx c failed).run inv
      (fun r cs' l' => inv cs' l' ∧ l'.phase = l.phase ∧
        ((∃ f, r = .error f) ∧ cs' = cs ∨ cs' = cs ++ [c])) cs l := by
  have called : Ensures exclusion
      ((conn.driver.call c).zoom Link.store fun store l => { l with store })
      (fun cs' l' => inv cs' l' ∧ l'.phase = l.phase ∧ (cs' = cs ∨ cs' = cs ++ [c]))
      (fun _ cs' l' => inv cs' l' ∧ l'.phase = l.phase ∧ cs' = cs ++ [c]) (cs ++ [c]) l :=
    .zoom (fun _ _ => rfl) (fun _ => rfl) (fun _ _ _ => rfl)
      ((hq c).ensures (fun store => ⟨hc store, rfl, .inr rfl⟩)
        (fun _ store => ⟨hc store, rfl, rfl⟩) _)
  refine ensures_guarded failed ⟨fun _ => hs, hs, rfl, .inl ⟨⟨_, rfl⟩, rfl⟩⟩
    (fun _ => ⟨hs, rfl, .inl rfl⟩) ht called ?_ ?_
  · rintro cs' l' ⟨hi, hp, h⟩
    exact ⟨hi, fun why => ⟨hi, hp, h.imp_left fun h => ⟨⟨_, rfl⟩, h⟩⟩⟩
  · rintro r cs' l' ⟨hi, hp, h⟩
    exact ⟨fun _ => hi, hi, hp, .inr h⟩

/-- The client is being set up: the driver was told to connect, and probed. -/
def Begun (cs : List Command) (l : Link δ) : Prop :=
  l.phase = .disconnected ∧ ∃ probes, (∀ c ∈ probes, c = .ready) ∧ cs = .connect :: probes

theorem Begun.probed (h : Begun cs l) (store : δ) : Begun (cs ++ [.ready]) { l with store } := by
  obtain ⟨hp, probes, hr, rfl⟩ := h
  refine ⟨hp, probes ++ [.ready], fun c hc => ?_, rfl⟩
  exact (List.mem_append.1 hc).elim (hr c) List.mem_singleton.1

theorem conducts_awaitReady (hq : conn.driver.Silent) (ctx probe : Context) (left : Nat)
    (h : Begun cs l) : Ensures exclusion (conn.awaitReady ctx probe left).run Begun
      (fun _ => Begun) cs l := by
  induction left generalizing cs l with
  | zero => exact ⟨fun _ => h, h⟩
  | succ left ih =>
    rw [awaitReady, ExceptT.run_mk]
    have ready : exclusion.told .ready l := fun hc => by cases hc
    have probed := conducts_guarded hq probe .ready (.transport "ready" none) ready h h.probed
    refine .bind (probed.mono (fun _ _ h => h) fun r cs l hr => ?_)
    have h := hr.1
    split
    · exact ⟨fun _ => h, h⟩
    · exact ⟨fun _ => h, h⟩
    refine .notice _ _ (fun _ => h) ?_
    split
    · exact ⟨fun _ => h, h⟩
    refine .bind ((Ensures.sleep ctx _ h).mono (fun _ _ h => h) fun r cs l h => ?_)
    split
    · exact ⟨fun _ => h, h⟩
    · exact ih h

/-- The client may not have been begun to be set up. -/
def Setting (cs : List Command) (l : Link δ) : Prop :=
  l.phase = .disconnected ∧ cs = [] ∨ Begun cs l

theorem conducts_establish (hq : conn.driver.Silent) (ctx : Context)
    (hl : l.phase = .disconnected) : Ensures exclusion (conn.establish ctx).run Setting
      (fun r cs l => Setting cs l ∧ (r = .ok () → Begun cs l)) [] l := by
  have begun (store : δ) : Begun ([] ++ [.connect]) { l with store } := ⟨hl, [], nofun, rfl⟩
  have idle : Setting [] l := .inl ⟨hl, rfl⟩
  have connected := conducts_guarded hq { ctx with timeout := some conn.requestTimeout } .connect
    (.connection conn.driver.name 1) (fun _ => hl) idle fun store => .inr (begun store)
  rw [establish, ExceptT.run_bind]
  refine .bind (connected.mono (fun _ _ h => h) fun r cs l' hr => ?_)
  obtain ⟨hs, hp, h⟩ := hr
  cases r with
  | error f => exact ⟨fun _ => hs, hs, fun hf => by cases hf⟩
  | ok a =>
    have hb : Begun cs l' := by
      obtain ⟨⟨_, hf⟩, _⟩ | rfl := h
      · cases hf
      · exact ⟨hp.trans hl, [], nofun, rfl⟩
    exact (conducts_awaitReady hq ctx _ _ hb).mono (fun _ _ => .inr) fun _ _ _ h =>
      ⟨.inr h, fun _ => h⟩

theorem Setting.stint (h : Setting cs l) : Stint cs := by
  rcases h with ⟨-, rfl⟩ | ⟨-, probes, hr, rfl⟩
  · exact .idle
  · exact .setUp probes hr

theorem Setting.phase (h : Setting cs l) : l.phase = .disconnected := by
  rcases h with ⟨hp, -⟩ | ⟨hp, -⟩
  · exact hp
  · exact hp

/-- The client counts as down, and the call comes to its end. -/
def Ending (cs : List Command) (l : Link δ) : Prop := Stint cs ∧ l.phase = .disconnected

theorem Ending.underway {call : LifecycleCall} (h : Ending cs l) :
    Underway call .disconnected cs l.phase := .of_down h.1 h.2

theorem Setting.ending (h : Setting cs l) : Ending cs l := ⟨h.stint, h.phase⟩

/-- Whatever was done to set the client up, it may be released then. -/
theorem Setting.released (h : Setting cs l) (store : δ) :
    Ending (cs ++ [.close]) { l with store } := by
  rcases h with ⟨hp, rfl⟩ | ⟨hp, probes, hr, rfl⟩
  · exact ⟨.closed, hp⟩
  · exact ⟨.released probes hr, hp⟩

/-- What a call to connect keeps to in the exclusive part. -/
theorem conducts_connect (hq : conn.driver.Silent) (ctx : Context) (call : LifecycleCall) :
    ∃ body, (conn.connect ctx).run = Timed.alone body ∧
      ∀ l, Ensures exclusion body (fun cs l' => Underway call l.phase cs l'.phase)
        (fun r cs l' => Through call l.phase r cs l'.phase) [] l := by
  refine ⟨_, rfl, fun l => ?_⟩
  obtain ⟨phase, store⟩ := l
  have start := Underway.start call phase
  refine .bind ⟨fun _ => start, fun _ => start, ?_⟩
  cases phase with
  | connected => exact ⟨fun _ => start, start, fun _ => iff_of_true rfl rfl⟩
  | disconnected =>
    have set : Ensures exclusion (ctx.within (conn.establish ctx).run) Setting
        (fun r cs l => Setting cs l ∧ (r = .ok () → Begun cs l)) [] ⟨.disconnected, store⟩ :=
      .within ⟨fun _ => .inl ⟨rfl, rfl⟩, .inl ⟨rfl, rfl⟩, nofun⟩ (conducts_establish hq ctx rfl)
        (fun _ _ h => ⟨h, fun _ => ⟨h, nofun⟩⟩) fun _ _ _ h => ⟨fun _ => h.1, h⟩
    refine .bind (set.mono (fun _ _ h => h.ending.underway) fun r cs l ⟨hs, hb⟩ => ?_)
    cases r with
    | ok a =>
      obtain ⟨-, probes, hr, rfl⟩ := hb rfl
      have up : Underway call .disconnected (.connect :: probes) .connected :=
        .of_up (.setUp probes hr) List.mem_cons_self
      refine ⟨fun _ => hs.ending.underway, ?_⟩
      exact .notice _ _ (fun _ => up) ⟨fun _ => up, up, fun _ => iff_of_true rfl rfl⟩
    | error f =>
      have released := conducts_guarded hq (ctx.orTimeout conn.requestTimeout) .close
        (.transport "close" none) nofun hs.ending hs.released
      refine .bind (released.mono (fun _ _ h => h.underway) fun r cs l ⟨h, _⟩ => ?_)
      have through : Through call .disconnected (.error f) cs l.phase :=
        ⟨h.underway, fun _ => iff_of_false nofun fun hp => absurd (h.2.symm.trans hp) nofun⟩
      cases r with
      | ok a => exact ⟨fun _ => h.underway, through⟩
      | error f' =>
        exact .notice _ _ (fun _ => h.underway) ⟨fun _ => h.underway, through⟩

/-- What a call to close keeps to in the exclusive part. -/
theorem conducts_close (hq : conn.driver.Silent) (ctx : Context) :
    ∃ body, (conn.close ctx).run = Timed.alone body ∧
      ∀ l, Ensures exclusion body (fun cs l' => Underway .close l.phase cs l'.phase)
        (fun r cs l' => Through .close l.phase r cs l'.phase) [] l := by
  refine ⟨_, rfl, fun l => ?_⟩
  obtain ⟨phase, store⟩ := l
  have start := Underway.start .close phase
  refine .bind ⟨fun _ => start, fun _ => start, ?_⟩
  cases phase with
  | disconnected => exact ⟨fun _ => start, start, nofun⟩
  | connected =>
    have closes {cs : List Command} {l : Link δ} (h : Ending cs l) :
        Underway .close .connected cs l.phase :=
      ⟨h.1, fun hp => absurd (h.2.symm.trans hp) nofun, fun hc => absurd rfl hc⟩
    have idle : Ending [] (⟨.disconnected, store⟩ : Link δ) := ⟨.idle, rfl⟩
    have released := conducts_guarded hq (ctx.orTimeout conn.requestTimeout) .close
      (.transport "close" none) nofun idle fun _ => ⟨.closed, rfl⟩
    refine ⟨fun _ => start, .notice _ _ (fun _ => closes idle) ?_⟩
    exact released.mono (fun _ _ h => closes h) fun r cs l h =>
      ⟨closes h.1, fun hc => absurd rfl hc⟩

end Connection

/-! ## Crowds of calls -/

/-- Clients of one connection, each of which makes one call. -/
abbrev Callers (δ ι : Type) := Crowd Event (Link δ) fun _ : ι => Except Failure Unit

/-- The clients of a new connection. -/
def Connection.callers (conn : Connection δ) (visits : ι → Visit) (store : δ) : Callers δ ι where
  programs i := (conn.visit (visits i)).run
  holder := none
  state := ⟨.disconnected, store⟩
  log := []

namespace Crowd

variable (c : Callers δ ι) (i : ι)

/-- The commands that were given to the driver, with who gave them. -/
def commands : List (ι × Command) := c.log.filterMap fun e => e.2.command?.map fun a => (e.1, a)

/-- How often the driver was told to connect. -/
def connects : Nat := (c.commands.map Prod.snd).count .connect

/-- The client has begun to give commands, and its call is not over. -/
def Busy : Prop := (∃ a, (i, a) ∈ c.commands) ∧ ∀ r, c.programs i ≠ .done r

/-- The call of the client was answered by an error. -/
def Failed : Prop := ∃ f, c.programs i = .done (.error f)

/-- The call of the client has succeeded. -/
def Succeeded : Prop := c.programs i = .done (.ok ())

/-- The client has given these commands, and nobody else gave one in between. -/
def Block (own : List Command) : Prop :=
  ∃ before after, c.commands = before ++ own.map (fun a => (i, a)) ++ after ∧
    (∀ p ∈ before, p.1 ≠ i) ∧ ∀ p ∈ after, p.1 ≠ i

end Crowd

/-- A call that has still to come to the exclusive part: a call to acquire looks first whether it
has to. -/
inductive Awaits (conn : Connection δ) (v : Visit) : Program (Link δ) (Except Failure Unit) → Prop
  | looks (h : v.call = .acquire) : Awaits conn v (conn.acquire v.ctx).run
  | enters (body : Program (Link δ) (Except Failure Unit))
    (h : ∀ l, body.Ensures Connection.exclusion (fun cs l' => Underway v.call l.phase cs l'.phase)
      (fun r cs l' => Through v.call l.phase r cs l'.phase) [] l) :
    Awaits conn v (Timed.alone body)

namespace Awaits

variable {conn : Connection δ} {v : Visit} {x x' : Program (Link δ) (Except Failure Unit)}
  {l l' : Link δ} {k : Access} {es : List Event} {i : ι} {holder holder' : Option ι}

theorem visit (hq : conn.driver.Silent) (v : Visit) : Awaits conn v (conn.visit v).run := by
  obtain ⟨call, ctx, start⟩ := v
  cases call with
  | connect =>
    obtain ⟨body, hb, h⟩ := Connection.conducts_connect hq ctx .connect
    rw [Connection.visit, hb]
    exact .enters body h
  | close =>
    obtain ⟨body, hb, h⟩ := Connection.conducts_close hq ctx
    rw [Connection.visit, hb]
    exact .enters body h
  | acquire => exact .looks rfl

theorem not_over (h : Awaits conn v x) (r : Except Failure Unit) : x ≠ .done r := by
  cases h with
  | looks => nofun
  | enters body => nofun

/-- How a call goes on that has still to come to the exclusive part. It tells of nothing and
changes nothing: it is over because the client is up, or goes on waiting, or enters. -/
inductive Going (conn : Connection δ) (v : Visit) (l : Link δ) (i : ι) (holder : Option ι)
    (x' : Program (Link δ) (Except Failure Unit)) : Option ι → Prop
  | ended (hv : v.call ≠ .close) (hl : l.phase = .connected) (hx : x' = .done (.ok ())) :
    Going conn v l i holder x' holder
  | waits (hx : Awaits conn v x') : Going conn v l i holder x' holder
  | enters (hh : holder = none) (body : Program (Link δ) (Except Failure Unit))
    (hx : x' = Timed.alone body)
    (h : body.Ensures Connection.exclusion (fun cs l' => Underway v.call l.phase cs l'.phase)
      (fun r cs l' => Through v.call l.phase r cs l'.phase) [] l) :
    Going conn v l i holder x' (some i)

theorem moves (hq : conn.driver.Silent) (hx : Awaits conn v x) (move : x.Moves l k es x' l')
    (access : k.Allows i holder holder') (ho : holder ≠ some i) :
    es = [] ∧ l' = l ∧ Going conn v l i holder x' holder' := by
  cases hx with
  | looks hv =>
    have hx : (conn.acquire v.ctx).run = .step (fun l => (l.phase == .connected, l))
        fun up => if up then .done (.ok ()) else (conn.connect v.ctx).run := rfl
    rw [hx] at move
    cases move
    cases access
    refine ⟨rfl, rfl, ?_⟩
    obtain ⟨phase, store⟩ := l
    cases phase with
    | connected => exact .ended (by rw [hv]; nofun) rfl rfl
    | disconnected =>
      obtain ⟨body, hb, h⟩ := Connection.conducts_connect hq v.ctx v.call
      refine .waits ?_
      show Awaits conn v (conn.connect v.ctx).run
      rw [hb]
      exact .enters body h
  | enters body h =>
    rw [Timed.alone] at move
    cases move with
    | enter =>
      cases access
      exact ⟨rfl, rfl, .enters rfl body rfl (h l)⟩
    | inside next move =>
      cases access
      exact absurd rfl ho
    | leave b =>
      cases access
      exact absurd rfl ho

end Awaits

/-! ## The invariant -/

theorem mem_of_mem_commands {es : List Event} {a : Command}
    (h : a ∈ es.filterMap Event.command?) : .command a ∈ es := by
  obtain ⟨e, he, ha⟩ := List.mem_filterMap.1 h
  cases e with
  | command c => exact Option.some.inj ha ▸ he
  | _ => cases ha

namespace Crowd

variable {c c' : Callers δ ι} {i j : ι} {own cs : List Command} {es : List Event}

/-- The commands after a client has told of events. -/
theorem commands_append (log : c'.log = c.log ++ es.map fun e => (i, e)) :
    c'.commands = c.commands ++ (es.filterMap Event.command?).map fun a => (i, a) := by
  rw [commands, log, List.filterMap_append, List.filterMap_map, List.map_filterMap]
  rfl

theorem connects_of_commands {before : List (ι × Command)}
    (h : c.commands = before ++ own.map fun a => (i, a)) :
    c.connects = (before.map Prod.snd).count .connect + own.count .connect := by
  rw [connects, h, List.map_append, List.count_append, List.map_map]
  show _ + (own.map id).count _ = _
  rw [List.map_id]

/-- The commands of others do not come in between. -/
theorem Block.append (h : c.Block j own) (hij : i ≠ j)
    (hc : c'.commands = c.commands ++ cs.map fun a => (i, a)) : c'.Block j own := by
  obtain ⟨before, after, hb, h₁, h₂⟩ := h
  refine ⟨before, after ++ cs.map fun a => (i, a), ?_, h₁, fun p hp => ?_⟩
  · rw [hc, hb, List.append_assoc _ after]
  · rcases List.mem_append.1 hp with hp | hp
    · exact h₂ p hp
    · obtain ⟨a, -, rfl⟩ := List.mem_map.1 hp
      exact hij

theorem Block.congr (h : c.Block j own) (hc : c'.commands = c.commands) : c'.Block j own := by
  rw [Block, hc]
  exact h

/-- A client that has given no command yet. -/
theorem Block.not_mem (h : c.Block i []) {p : ι × Command} (hp : p ∈ c.commands) : p.1 ≠ i := by
  obtain ⟨before, after, hb, h₁, h₂⟩ := h
  rw [hb, List.map_nil, List.append_nil] at hp
  exact (List.mem_append.1 hp).elim (h₁ p) (h₂ p)

end Crowd

/-- A client that is not in the exclusive part: it has still to come to it, or is over. -/
inductive Outside (conn : Connection δ) (v : Visit) (c : Callers δ ι) (i : ι) : Prop
  | awaits (program : Awaits conn v (c.programs i)) (block : c.Block i [])
  | ended (r : Except Failure Unit) (own : List Command) (program : c.programs i = .done r)
    (stint : Stint own) (block : c.Block i own)

/-- How many commands to connect have been given, `n`, by the phase, if nobody is to close: one for
the client that is up, and one at most for each call that has failed. -/
structure Tally (c : Callers δ ι) (n : Nat) (phase : Phase) : Prop where
  up : phase = .connected → 1 ≤ n
  failures : ∃ failed : Finset ι, (∀ i ∈ failed, c.Failed i) ∧
    n ≤ failed.card + if phase = .connected then 1 else 0

/-- A client is in the exclusive part: what was told before it came, what it has told since, how the
others are, and the tally when it came, when the connection was in a certain phase. -/
structure Inside (conn : Connection δ) (visits : ι → Visit) (c : Callers δ ι) (i : ι)
    (found : Phase) (before : List (ι × Command)) (own : List Command) : Prop where
  commands : c.commands = before ++ own.map fun a => (i, a)
  fresh : ∀ p ∈ before, p.1 ≠ i
  outside : ∀ j, j ≠ i → Outside conn (visits j) c j
  tally : (∀ i, (visits i).call ≠ .close) → Tally c ((before.map Prod.snd).count .connect) found

/-- Where the clients are: all of them outside, or one of them in the exclusive part. -/
inductive Stage (conn : Connection δ) (visits : ι → Visit) (c : Callers δ ι) : Prop
  | free (holder : c.holder = none) (outside : ∀ i, Outside conn (visits i) c i)
    (tally : (∀ i, (visits i).call ≠ .close) → Tally c c.connects c.state.phase)
  | held (i : ι) (found : Phase) (body : Program (Link δ) (Except Failure Unit))
    (before : List (ι × Command)) (own : List Command) (holder : c.holder = some i)
    (program : c.programs i = Timed.alone body)
    (conduct : body.Ensures Connection.exclusion
      (fun cs l => Underway (visits i).call found cs l.phase)
      (fun r cs l => Through (visits i).call found r cs l.phase) own c.state)
    (inside : Inside conn visits c i found before own)

/-- The invariant of the crowd. -/
structure Course (conn : Connection δ) (visits : ι → Visit) (c : Callers δ ι) : Prop where
  stage : Stage conn visits c
  served : (∀ i, (visits i).call ≠ .close) → (∃ i, c.Succeeded i) → 1 ≤ c.connects

variable {conn : Connection δ} {visits : ι → Visit} {v : Visit}
  {c c' : Callers δ ι} {i j : ι} {n : Nat} {phase : Phase} {es : List Event} {k : Access}

theorem Tally.mono (h : Tally c n phase) (hf : ∀ i, c.Failed i → c'.Failed i) :
    Tally c' n phase := by
  obtain ⟨up, failed, hfailed, hn⟩ := h
  exact ⟨up, failed, fun i hi => hf i (hfailed i hi), hn⟩

/-- The tally after one more call. -/
theorem Tally.leave {found now : Phase} {r : Except Failure Unit} {own : List Command}
    (h : Tally c n found) (through : Through v.call found r own now) (hv : v.call ≠ .close)
    (program : c'.programs i = .done r) (hi : ¬ c.Failed i) (hf : ∀ j, c.Failed j → c'.Failed j) :
    Tally c' (n + own.count .connect) now := by
  have hle := through.stint.count_connect_le
  obtain ⟨up, failed, hfailed, hn⟩ := h
  have hfailed' (j : ι) (hj : j ∈ failed) : c'.Failed j := hf j (hfailed j hj)
  cases found with
  | connected =>
    obtain ⟨rfl, rfl⟩ := through.still hv rfl
    exact ⟨up, failed, hfailed', hn⟩
  | disconnected =>
    rw [if_neg nofun] at hn
    cases now with
    | connected =>
      have hc : .connect ∈ own := (through.up rfl).resolve_left nofun
      have hone := List.one_le_count_iff.2 hc
      refine ⟨fun _ => ?_, failed, hfailed', ?_⟩
      · omega
      · rw [if_pos rfl]
        omega
    | disconnected =>
      cases r with
      | ok a => exact absurd ((through.answer hv).1 rfl) nofun
      | error f =>
        have hi' : i ∉ failed := fun h => hi (hfailed i h)
        refine ⟨nofun, failed.cons i hi', fun j hj => ?_, ?_⟩
        · rcases Finset.mem_cons.1 hj with rfl | hj
          · exact ⟨f, program⟩
          · exact hfailed' j hj
        · rw [Finset.card_cons]
          omega

/-- While the client is up it has been set up. -/
theorem Stage.up (h : Stage conn visits c) (hv : ∀ i, (visits i).call ≠ .close)
    (hp : c.state.phase = .connected) : 1 ≤ c.connects := by
  cases h with
  | free holder outside tally => exact (tally hv).up hp
  | held i found body before own holder program conduct inside =>
    have underway := conduct.inv_of_anytime trivial
    rw [Crowd.connects_of_commands inside.commands]
    rcases underway.up hp with hf | hf
    · exact Nat.le_add_right_of_le ((inside.tally hv).up hf)
    · exact Nat.le_add_left_of_le (List.one_le_count_iff.2 hf)

/-- A client whose call is over does not move. -/
theorem not_moves_done {x' : Program (Link δ) (Except Failure Unit)} {r : Except Failure Unit}
    {l l' : Link δ} (move : Timed.Moves (.done r) l k es x' l') : False := by
  cases move

namespace Outside

/-- The commands of another client, or none, come after. -/
theorem append {cs : List Command} (h : Outside conn v c j) (hij : i ≠ j)
    (hp : c'.programs j = c.programs j)
    (hc : c'.commands = c.commands ++ cs.map fun a => (i, a)) : Outside conn v c' j := by
  cases h with
  | awaits program block => exact .awaits (hp ▸ program) (block.append hij hc)
  | ended r own program stint block =>
    exact .ended r own (hp.trans program) stint (block.append hij hc)

/-- A client that is outside tells of nothing and changes nothing. -/
theorem moves (hq : conn.driver.Silent) (h : Outside conn v c i)
    (move : (c.programs i).Moves c.state k es (c'.programs i) c'.state)
    (access : k.Allows i c.holder c'.holder) (ho : c.holder ≠ some i) :
    c.Block i [] ∧ es = [] ∧ c'.state = c.state ∧
      Awaits.Going conn v c.state i c.holder (c'.programs i) c'.holder := by
  cases h with
  | awaits program block => exact ⟨block, program.moves hq move access ho⟩
  | ended r own program =>
    rw [program] at move
    exact (not_moves_done move).elim

end Outside

namespace Stage

/-- A client that stays outside moves. -/
theorem aside (h : Stage conn visits c) (hi : c.holder ≠ some i) (hs : c'.state = c.state)
    (hh : c'.holder = c.holder) (hc : c'.commands = c.commands)
    (others : ∀ j, j ≠ i → c'.programs j = c.programs j)
    (outside' : Outside conn (visits i) c' i) (hf : ∀ j, c.Failed j → c'.Failed j) :
    Stage conn visits c' := by
  have hc' : c'.commands = c.commands ++ ([] : List Command).map fun a => (i, a) := by
    rw [hc, List.map_nil, List.append_nil]
  cases h with
  | free holder outside tally =>
    refine .free (hh.trans holder) (fun j => ?_) fun hv => ?_
    · by_cases hj : j = i
      · exact hj ▸ outside'
      · exact (outside j).append (Ne.symm hj) (others j hj) hc'
    · rw [Crowd.connects, hc, ← Crowd.connects, hs]
      exact (tally hv).mono hf
  | held i₀ found body before own holder program conduct inside =>
    obtain ⟨commands, fresh, outside, tally⟩ := inside
    have hi₀ : i₀ ≠ i := fun h => hi (h ▸ holder)
    refine .held i₀ found body before own (hh.trans holder) ((others i₀ hi₀).trans program)
      (hs ▸ conduct) ⟨hc.trans commands, fresh, fun j hj => ?_, fun hv => (tally hv).mono hf⟩
    by_cases hji : j = i
    · exact hji ▸ outside'
    · exact (outside j hj).append (Ne.symm hji) (others j hji) hc'

/-- A client enters the exclusive part. -/
theorem enter {body : Program (Link δ) (Except Failure Unit)} (h : Stage conn visits c)
    (free : c.holder = none) (hh : c'.holder = some i) (hs : c'.state = c.state)
    (hc : c'.commands = c.commands) (others : ∀ j, j ≠ i → c'.programs j = c.programs j)
    (program : c'.programs i = Timed.alone body) (block : c.Block i [])
    (conduct : body.Ensures Connection.exclusion
      (fun cs l => Underway (visits i).call c.state.phase cs l.phase)
      (fun r cs l => Through (visits i).call c.state.phase r cs l.phase) [] c.state)
    (hf : ∀ j, c.Failed j → c'.Failed j) : Stage conn visits c' := by
  have hc' : c'.commands = c.commands ++ ([] : List Command).map fun a => (i, a) := by
    rw [hc, List.map_nil, List.append_nil]
  cases h with
  | held i₀ found body before own holder =>
    rw [free] at holder
    cases holder
  | free holder outside tally =>
    exact .held i c.state.phase body c.commands [] hh program (hs ▸ conduct)
      ⟨hc', fun p hp => block.not_mem hp,
        fun j hj => (outside j).append (Ne.symm hj) (others j hj) hc', fun hv => (tally hv).mono hf⟩

/-- The client in the exclusive part goes on there. -/
theorem inside {found : Phase} {before : List (ι × Command)} {own cs : List Command}
    {body : Program (Link δ) (Except Failure Unit)} (h : Inside conn visits c i found before own)
    (hh : c'.holder = some i) (hc : c'.commands = c.commands ++ cs.map fun a => (i, a))
    (others : ∀ j, j ≠ i → c'.programs j = c.programs j)
    (program : c'.programs i = Timed.alone body)
    (conduct : body.Ensures Connection.exclusion
      (fun cs l => Underway (visits i).call found cs l.phase)
      (fun r cs l => Through (visits i).call found r cs l.phase) (own ++ cs) c'.state)
    (hf : ∀ j, c.Failed j → c'.Failed j) : Stage conn visits c' := by
  obtain ⟨commands, fresh, outside, tally⟩ := h
  refine .held i found body before (own ++ cs) hh program conduct
    ⟨?_, fresh, fun j hj => (outside j hj).append (Ne.symm hj) (others j hj) hc,
      fun hv => (tally hv).mono hf⟩
  rw [hc, commands, List.map_append, List.append_assoc]

/-- The client in the exclusive part leaves it. -/
theorem leave {found : Phase} {before : List (ι × Command)} {own : List Command}
    {r : Except Failure Unit} (h : Inside conn visits c i found before own)
    (hh : c'.holder = none) (hs : c'.state = c.state) (hc : c'.commands = c.commands)
    (others : ∀ j, j ≠ i → c'.programs j = c.programs j) (program : c'.programs i = .done r)
    (through : Through (visits i).call found r own c.state.phase) (hi : ¬ c.Failed i)
    (hf : ∀ j, c.Failed j → c'.Failed j) : Stage conn visits c' := by
  obtain ⟨commands, fresh, outside, tally⟩ := h
  have hc' : c'.commands = c.commands ++ ([] : List Command).map fun a => (i, a) := by
    rw [hc, List.map_nil, List.append_nil]
  have block : c'.Block i own := ⟨before, [], by rw [hc, commands, List.append_nil], fresh, nofun⟩
  refine .free hh (fun j => ?_) fun hv => ?_
  · by_cases hj : j = i
    · exact hj ▸ .ended r own program through.stint block
    · exact (outside j hj).append (Ne.symm hj) (others j hj) hc'
  · rw [Crowd.connects_of_commands (hc.trans commands), hs]
    exact (tally hv).leave through (hv i) program hi hf

/-- What a move of the crowd keeps to. -/
structure Moved (visits : ι → Visit) (c c' : Callers δ ι) : Prop where
  told : ∀ (i : ι) (cs : List Command), c'.commands = c.commands ++ (cs.map fun a => (i, a)) →
    .connect ∈ cs → c.state.phase = .disconnected
  served : ∀ i, (visits i).call ≠ .close → c'.Succeeded i →
    c.Succeeded i ∨ c'.state.phase = .connected

/-- Who moves is not over, so a call that has failed stays so. -/
theorem failed_of_move (move : (c.programs i).Moves c.state k es (c'.programs i) c'.state)
    (others : ∀ j, j ≠ i → c'.programs j = c.programs j) :
    ¬ c.Failed i ∧ ∀ j, c.Failed j → c'.Failed j := by
  have hi : ¬ c.Failed i := by
    rintro ⟨f, hf⟩
    rw [hf] at move
    exact not_moves_done move
  refine ⟨hi, fun j hj => ?_⟩
  have hji : j ≠ i := fun h => hi (h ▸ hj)
  rw [Crowd.Failed, others j hji]
  exact hj

/-- No move of a client that is outside disturbs the others. -/
theorem step_outside (hq : conn.driver.Silent) (h : Stage conn visits c)
    (move : (c.programs i).Moves c.state k es (c'.programs i) c'.state)
    (others : ∀ j, j ≠ i → c'.programs j = c.programs j)
    (access : k.Allows i c.holder c'.holder) (log : c'.log = c.log ++ es.map fun e => (i, e))
    (ho : c.holder ≠ some i) (outside : Outside conn (visits i) c i) :
    Stage conn visits c' ∧ Moved visits c c' := by
  obtain ⟨block, rfl, hs, going⟩ := outside.moves hq move access ho
  obtain ⟨-, hf⟩ := failed_of_move move others
  have hc : c'.commands = c.commands := by
    rw [Crowd.commands, log, List.map_nil, List.append_nil, ← Crowd.commands]
  have told (j : ι) (cs : List Command)
      (h : c'.commands = c.commands ++ cs.map fun a => (j, a)) (hcs : .connect ∈ cs) :
      c.state.phase = .disconnected := by
    rw [hc] at h
    have hn := List.map_eq_nil_iff.1 (List.self_eq_append_right.1 h)
    rw [hn] at hcs
    cases hcs
  have block' : c'.Block i [] := block.congr hc
  have served (hi : c'.Succeeded i → c.state.phase = .connected) (j : ι) (hj : c'.Succeeded j) :
      c.Succeeded j ∨ c'.state.phase = .connected := by
    by_cases hji : j = i
    · exact .inr (hs ▸ hi (hji ▸ hj))
    · exact .inl ((others j hji).symm.trans hj)
  generalize hh : c'.holder = holder' at going
  cases going with
  | ended hv hl hx =>
    exact ⟨h.aside ho hs hh hc others (.ended _ [] hx .idle block') hf,
      told, fun j _ => served (fun _ => hl) j⟩
  | waits hx =>
    exact ⟨h.aside ho hs hh hc others (.awaits hx block') hf,
      told, fun j _ => served (fun hi => absurd hi (hx.not_over _)) j⟩
  | enters free body hx conduct =>
    have hn : ¬ c'.Succeeded i := fun hi => nomatch hx.symm.trans hi
    exact ⟨h.enter free hh hs hc others hx block conduct hf,
      told, fun j _ => served (fun hi => absurd hi hn) j⟩

/-- Nor does one of the client that is inside. -/
theorem step_inside {found : Phase} {before : List (ι × Command)} {own : List Command}
    {body : Program (Link δ) (Except Failure Unit)} (holder : c.holder = some i)
    (program : c.programs i = Timed.alone body)
    (conduct : body.Ensures Connection.exclusion
      (fun cs l => Underway (visits i).call found cs l.phase)
      (fun r cs l => Through (visits i).call found r cs l.phase) own c.state)
    (h : Inside conn visits c i found before own)
    (move : (c.programs i).Moves c.state k es (c'.programs i) c'.state)
    (others : ∀ j, j ≠ i → c'.programs j = c.programs j)
    (access : k.Allows i c.holder c'.holder) (log : c'.log = c.log ++ es.map fun e => (i, e)) :
    Stage conn visits c' ∧ Moved visits c c' := by
  obtain ⟨hi, hf⟩ := failed_of_move move others
  have hc := Crowd.commands_append log
  rw [program, Timed.alone] at move
  generalize hx : c'.programs i = x' at move
  generalize hs : c'.state = l' at move
  rw [holder] at access
  generalize hh : c'.holder = holder' at access
  cases move with
  | enter => cases access
  | inside next move =>
    cases access
    obtain ⟨ht, conduct'⟩ := conduct.moves trivial move
    subst hs
    refine ⟨inside h hh hc others hx conduct' hf, fun j cs hcs hm => ?_, fun j _ hj => ?_⟩
    · have hmap := List.append_cancel_left (hcs.symm.trans hc)
      have hj : (j, Command.connect) ∈ (es.filterMap Event.command?).map fun a => (i, a) :=
        hmap ▸ List.mem_map_of_mem hm
      obtain ⟨a, ha, heq⟩ := List.mem_map.1 hj
      cases heq
      exact ht .connect (mem_of_mem_commands ha) rfl
    · refine .inl ((others j fun hji => ?_).symm.trans hj)
      cases (hji ▸ hj : c'.Succeeded i).symm.trans hx
  | leave r =>
    cases access
    have hc' : c'.commands = c.commands := by
      rw [hc, List.filterMap_nil, List.map_nil, List.append_nil]
    refine ⟨leave h hh hs hc' others hx conduct.2 hi hf, fun j cs hcs hm => ?_, fun j hv hj => ?_⟩
    · have hn := List.map_eq_nil_iff.1 (List.self_eq_append_right.1 (hc'.symm.trans hcs))
      rw [hn] at hm
      cases hm
    · by_cases hji : j = i
      · subst hji
        cases hx.symm.trans hj
        exact .inr (hs ▸ (conduct.2.answer hv).1 rfl)
      · exact .inl ((others j hji).symm.trans hj)

/-- A move of the crowd keeps its stage. -/
theorem step (hq : conn.driver.Silent) (h : Stage conn visits c)
    (move : Crowd.Step (fun _ _ => False) c c') : Stage conn visits c' ∧ Moved visits c c' := by
  cases move with
  | drift state => exact state.elim
  | client i move others access log =>
    have stage := h
    cases h with
    | free holder outside =>
      have ho : c.holder ≠ some i := by
        rw [holder]
        nofun
      exact stage.step_outside hq move others access log ho (outside i)
    | held i₀ found body before own holder program conduct inside =>
      by_cases hi : i = i₀
      · subst hi
        exact step_inside holder program conduct inside move others access log
      · have ho : c.holder ≠ some i := by
          rw [holder]
          exact fun h => hi (Option.some.inj h).symm
        exact stage.step_outside hq move others access log ho (inside.outside i hi)

end Stage

/-! ## Crowds that can be reached -/

theorem Crowd.connects_le (move : Crowd.Step (fun _ _ => False) c c') :
    c.connects ≤ c'.connects := by
  cases move with
  | drift state => exact state.elim
  | client i move others access log =>
    rw [Crowd.connects, Crowd.connects, Crowd.commands_append log, List.map_append,
      List.count_append]
    exact Nat.le_add_right _ _

namespace Course

theorem start (hq : conn.driver.Silent) (visits : ι → Visit) (store : δ) :
    Course conn visits (conn.callers visits store) where
  stage := .free rfl (fun i => .awaits (.visit hq (visits i)) ⟨[], [], rfl, nofun, nofun⟩)
    fun _ => ⟨nofun, ∅, nofun, Nat.le_refl 0⟩
  served := by
    rintro hv ⟨i, hi⟩
    exact absurd hi ((Awaits.visit hq (visits i)).not_over _)

theorem step (hq : conn.driver.Silent) (h : Course conn visits c)
    (move : Crowd.Step (fun _ _ => False) c c') : Course conn visits c' := by
  obtain ⟨stage, moved⟩ := h.stage.step hq move
  refine ⟨stage, fun hv ⟨i, hi⟩ => ?_⟩
  rcases moved.served i (hv i) hi with hi | hp
  · exact Nat.le_trans (h.served hv ⟨i, hi⟩) (Crowd.connects_le move)
  · exact stage.up hv hp

/-- Whoever has begun to give commands and is not over is in the exclusive part. -/
theorem holder_of_busy (h : Course conn visits c) (hi : c.Busy i) : c.holder = some i := by
  obtain ⟨⟨a, ha⟩, hd⟩ := hi
  have outside : ¬ Outside conn (visits i) c i := by
    rintro (⟨-, block⟩ | ⟨r, own, program⟩)
    · exact block.not_mem ha rfl
    · exact hd r program
  cases h.stage with
  | free holder all => exact absurd (all i) outside
  | held j found body before own holder program conduct inside =>
    by_cases hij : i = j
    · exact hij ▸ holder
    · exact absurd (inside.outside i hij) outside

theorem block (h : Course conn visits c) (i : ι) : ∃ own, Stint own ∧ c.Block i own := by
  have outside : Outside conn (visits i) c i → ∃ own, Stint own ∧ c.Block i own := by
    rintro (⟨-, block⟩ | ⟨r, own, -, stint, block⟩)
    · exact ⟨[], .idle, block⟩
    · exact ⟨own, stint, block⟩
  cases h.stage with
  | free holder all => exact outside (all i)
  | held j found body before own holder program conduct inside =>
    by_cases hij : i = j
    · subst hij
      exact ⟨own, (conduct.inv_of_anytime trivial).stint, before, [],
        by rw [inside.commands, List.append_nil], inside.fresh, nofun⟩
    · exact outside (inside.outside i hij)

/-- Every command to connect but one goes with a call that has failed. -/
theorem failures (h : Course conn visits c) (hv : ∀ i, (visits i).call ≠ .close) :
    ∃ failed : Finset ι, (∀ i ∈ failed, c.Failed i) ∧ c.connects ≤ failed.card + 1 := by
  cases h.stage with
  | free holder all tally =>
    obtain ⟨-, failed, hf, hn⟩ := tally hv
    refine ⟨failed, hf, hn.trans ?_⟩
    split <;> omega
  | held j found body before own holder program conduct inside =>
    obtain ⟨-, failed, hf, hn⟩ := inside.tally hv
    have underway := conduct.inv_of_anytime trivial
    have hone := underway.stint.count_connect_le
    refine ⟨failed, hf, ?_⟩
    rw [Crowd.connects_of_commands inside.commands]
    cases found with
    | connected =>
      rw [(underway.still (hv j) rfl).1, List.count_nil]
      exact hn
    | disconnected =>
      rw [if_neg nofun] at hn
      omega

end Course

/-- How a crowd of clients that each make one call has gone so far, and may go on. -/
structure Orderly (visits : ι → Visit) (c : Callers δ ι) : Prop where
  /-- At most one client has begun to give commands and is not over. -/
  alone : ∀ i j, c.Busy i → c.Busy j → i = j
  /-- The driver is told to connect only while the connection counts as down. -/
  down : ∀ c' i, Crowd.Step (fun _ _ => False) c c' → c'.commands = c.commands ++ [(i, .connect)] →
    c.state.phase = .disconnected
  /-- The commands of each client stand together: at most one to connect, then probes, and at the
  end at most one to close. -/
  together : ∀ i, ∃ own, Stint own ∧ c.Block i own
  /-- If nobody closes, there is at most one command to connect more than calls that failed. -/
  few : (∀ i, (visits i).call ≠ .close) → (c.connects : ℕ∞) ≤ {i | c.Failed i}.encard + 1
  /-- If nobody closes and no call has failed, one command to connect was enough for all. -/
  once : (∀ i, (visits i).call ≠ .close) → (∀ i, ¬ c.Failed i) → (∃ i, c.Succeeded i) →
    c.connects = 1

/-- However the clients of a connection take turns, only one of them at a time sets up or
releases. -/
theorem Connection.orderly_of_reaches (hq : conn.driver.Silent) (visits : ι → Visit) (store : δ)
    (reaches : Crowd.Reaches (fun _ _ => False) (conn.callers visits store) c) :
    Orderly visits c := by
  have h := reaches.invariant (Course conn visits) (.start hq visits store) fun h => h.step hq
  refine ⟨fun i j hi hj => ?_, fun c' i move hc => ?_, h.block, fun hv => ?_, fun hv hn hs => ?_⟩
  · exact Option.some.inj ((h.holder_of_busy hi).symm.trans (h.holder_of_busy hj))
  · exact (h.stage.step hq move).2.told i [.connect] hc List.mem_cons_self
  · obtain ⟨failed, hf, hle⟩ := h.failures hv
    have hsub : (failed : Set ι) ⊆ {i | c.Failed i} := hf
    calc (c.connects : ℕ∞) ≤ (failed.card + 1 : ℕ) := by exact_mod_cast hle
      _ = (failed : Set ι).encard + 1 := by rw [Set.encard_coe_eq_coe_finsetCard]; rfl
      _ ≤ {i | c.Failed i}.encard + 1 := by gcongr
  · obtain ⟨failed, hf, hle⟩ := h.failures hv
    have hempty : failed = ∅ := Finset.eq_empty_of_forall_notMem fun i hi => hn i (hf i hi)
    rw [hempty, Finset.card_empty] at hle
    have hone := h.served hv hs
    omega

namespace Crowd

theorem Reaches.trans {d : Callers δ ι} {drift : Link δ → Link δ → Prop}
    (h : Reaches drift c c') (h' : Reaches drift c' d) : Reaches drift c d := by
  induction h' with
  | refl => exact h
  | tail _ move ih => exact ih.tail move

/-- The crowd after a client was run without the others from a tick on, if its call comes to its
end. -/
def ran [DecidableEq ι] (c : Callers δ ι) (i : ι) (t : Tick) : Callers δ ι :=
  match (c.programs i).run none t c.state with
  | ⟨some (r, _), s, es⟩ => c.put i es (.done r) none s
  | ⟨none, _, _⟩ => c

theorem reaches_ran [DecidableEq ι] (free : c.holder = none) (i : ι) (t : Tick) :
    Reaches (fun _ _ => False) c (c.ran i t) ∧ (c.ran i t).holder = none := by
  unfold ran
  cases hr : (c.programs i).run none t c.state with
  | mk finished s es =>
    cases finished with
    | none => exact ⟨.refl, free⟩
    | some r => exact ⟨c.reaches_run free hr, rfl⟩

end Crowd

/-- Three clients, the first of which is cancelled while the backend does not answer. -/
def latecomers : Fin 3 → Visit
  | 0 => ⟨.connect, { cancelledAt := some 101 }, 0⟩
  | 1 => ⟨.acquire, {}, 0⟩
  | 2 => ⟨.connect, {}, 0⟩

/-- The clients have made their calls one after the other. -/
def latecomersOver : Callers (Scripted (Clocked Memory)) (Fin 3) :=
  let calls := Connection.rehearsed.callers latecomers ⟨[("ready", [{ hang := true }])], 0, .empty⟩
  ((calls.ran 0 0).ran 1 101).ran 2 101

/-- A call that was cancelled makes a second command to connect needed. -/
theorem Connection.orderly_of_latecomers :
    rehearsed.driver.Silent ∧
      Crowd.Reaches (fun _ _ => False)
        (rehearsed.callers latecomers ⟨[("ready", [{ hang := true }])], 0, .empty⟩) latecomersOver ∧
      latecomersOver.connects = 2 ∧ Orderly latecomers latecomersOver := by
  have hq : rehearsed.driver.Silent := Scripted.silent_driver (Clocked.silent_driver _ _ _)
  obtain ⟨h₁, f₁⟩ := Crowd.reaches_ran (c := rehearsed.callers latecomers
    ⟨[("ready", [{ hang := true }])], 0, .empty⟩) rfl 0 0
  obtain ⟨h₂, f₂⟩ := Crowd.reaches_ran f₁ 1 101
  obtain ⟨h₃, -⟩ := Crowd.reaches_ran f₂ 2 101
  have reaches := (h₁.trans h₂).trans h₃
  exact ⟨hq, reaches, by decide +kernel, orderly_of_reaches hq latecomers _ reaches⟩

end KvBridge
