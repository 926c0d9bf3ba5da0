import KvBridge.Proofs.Cache.Reference
import KvBridge.Proofs.Connection.Errand
import KvBridge.Proofs.Connection.Vacancy

/-!
# Adding under contention

Clients race for a key: some add a value for it, some read it, and some see to other keys, all over
one connection to a store in memory whose conditional writes are atomic (`Race`). A client that
makes several calls counts as several racers. At first the key is vacant and no adder has claimed it
(`Race.Unclaimed`). The first claim to reach the store wins, and from then on the key is held by its
value (`Race.Won`).

* `Race.Waits.moves`, `Race.Settled.moves`: what one move of a racer does before and after;
* `Race.Unclaimed.reaches`, `Race.Won.reaches`: what any number of moves do;
* `Race.one_winner`: what the racers are told in the end.
-/

namespace KvBridge

/-! ## Calls -/

namespace Cache

variable {β : Type} (cache : Cache (Clocked β)) {name : String} {atomicSwap : Bool}
  {exec : (c : Command) → Reading → β → Except Cause c.Reply × β} {isOpen : β → Prop}

/-- What adding answers if the conditional write succeeds. -/
def AddAnswers (r : Except Cause Swap) (answer : Except Failure Unit) : Prop :=
  ∀ swap, r = .ok swap → answer = (if swap.swapped then .ok () else .error .keyAlreadyExists) ∨
    answer = .error .cancelled

/-- What reading answers if the store has the value. -/
def GetAnswers (r : Except Cause (Option Bytes)) (answer : Except Failure Bytes) : Prop :=
  ∀ value, r = .ok (some value) → answer = .ok value ∨ answer = .error .cancelled

variable {cache} in
theorem atomicAdd_of_driver (hd : cache.conn.driver = Clocked.driver name true exec) :
    cache.atomicAdd = true := by
  rw [atomicAdd, hd]
  rfl

/-- Adding owes a conditional write, if these are atomic. -/
theorem owes_add (hd : cache.conn.driver = Clocked.driver name true exec) (ctx : Context)
    (key value : Bytes) (ttl : Option Duration) :
    (cache.add ctx key value ttl).run.Owes exec isOpen
      (.compareAndSwap key none value (cache.effectiveTtl ttl)) AddAnswers
      (· = .error .cancelled) := by
  rw [add, if_pos (atomicAdd_of_driver hd)]
  refine Timed.Owes.bind (Timed.Owes.bind ((Connection.owes_perform hd ctx _
    (.transportForKey "add" key)).mono (fun r a h => ?_) fun a h => ?_))
  · obtain rfl | rfl := h
    · cases r with
      | error cause => exact ⟨nofun, nofun⟩
      | ok swap =>
        obtain ⟨previous, swapped⟩ := swap
        cases swapped <;> exact ⟨nofun, fun _ he => .inl (by cases he; rfl)⟩
    · exact ⟨nofun, fun _ _ => .inr rfl⟩
  · subst h
    exact ⟨nofun, rfl⟩

/-- Reading owes a read. -/
theorem owes_get (hd : cache.conn.driver = Clocked.driver name atomicSwap exec) (ctx : Context)
    (key : Bytes) :
    (cache.get ctx key).run.Owes exec isOpen (.get key) GetAnswers (· = .error .cancelled) := by
  refine Timed.Owes.bind (Timed.Owes.bind ((Connection.owes_perform hd ctx _
    (.transportForKey "get" key)).mono (fun r a h => ?_) fun a h => ?_))
  · obtain rfl | rfl := h
    · cases r with
      | error cause => exact ⟨nofun, nofun⟩
      | ok found =>
        cases found with
        | none => exact ⟨nofun, nofun⟩
        | some value => exact ⟨nofun, fun _ he => .inl (by cases he; rfl)⟩
    · exact ⟨nofun, fun _ _ => .inr rfl⟩
  · subst h
    exact ⟨nofun, rfl⟩

end Cache

/-! ## Races -/

/-- What a client does with other keys: a call to a cache with a span of its own, or a command,
which may be a batch. -/
inductive Errand
  | call (ttl₀ : Option Duration) (c : CacheCall)
  | command (c : Command) (failed : Cause → Failure)

namespace Errand

/-- What an errand that succeeds answers. -/
abbrev Reply : Errand → Type
  | .call _ c => c.Reply
  | .command c _ => c.Reply

/-- The errand concerns only other keys, and does not close the connection. -/
def Spares (key : Bytes) : Errand → Prop
  | .call _ .connect => True
  | .call _ .close => False
  | .call _ (.get k) | .call _ (.set k _ _) | .call _ (.add k _ _) | .call _ (.delete k) => key ≠ k
  | .command c _ => c.Spares key

/-- The program of an errand. -/
def run (conn : Connection (Clocked Memory)) (ctx : Context) :
    (e : Errand) → Program (Link (Clocked Memory)) (Except Failure e.Reply)
  | .call ttl₀ c => ((⟨conn, ttl₀⟩ : Cache (Clocked Memory)).call ctx c).run
  | .command c failed => (conn.perform ctx c failed).run

variable {conn : Connection (Clocked Memory)} {key : Bytes}

theorem keeps_perform (hd : conn.driver = Memory.driver true) (ctx : Context) {c : Command}
    (hc : c.Spares key) (failed : Cause → Failure) :
    (conn.perform ctx c failed).run.Keeps (Link.Up Memory.IsOpen) (Link.Spares key) :=
  Connection.keeps_perform hd ctx c failed (fun _ hl => hl.spares key) fun _ hl =>
    hl.spares_served hc

/-- An errand that spares a key leaves its entry at every step. -/
theorem keeps_run (hd : conn.driver = Memory.driver true) (ctx : Context) {e : Errand}
    (he : e.Spares key) : (e.run conn ctx).Keeps (Link.Up Memory.IsOpen) (Link.Spares key) := by
  cases e with
  | command c failed => exact keeps_perform hd ctx he failed
  | call ttl₀ c =>
    cases c with
    | get k =>
      refine .bind (.bind (keeps_perform hd ctx (c := .get k) he _) fun r => ?_) fun _ => trivial
      rcases r with _ | _ | _ <;> trivial
    | set k value ttl =>
      refine .bind ?_ fun _ => trivial
      cases Cache.effectiveTtl ⟨conn, ttl₀⟩ ttl with
      | none => exact keeps_perform hd ctx (c := .put k value) he _
      | some span => exact keeps_perform hd ctx (c := .putWithTtl k value span) he _
    | add k value ttl =>
      rw [run, Cache.call, Cache.add, if_pos (Cache.atomicAdd_of_driver hd)]
      refine .bind (.bind (keeps_perform hd ctx (c := .compareAndSwap k none value _) he _)
        fun r => ?_) fun _ => trivial
      rcases r with _ | ⟨_, _ | _⟩ <;> trivial
    | delete k => exact .bind (keeps_perform hd ctx (c := .delete k) he _) fun _ => trivial
    | connect =>
      refine ⟨fun l hl => ⟨hl.spares key, ?_⟩, fun _ => trivial⟩
      dsimp only
      rw [hl.phase]
      trivial
    | close => exact he.elim

end Errand

/-- Who takes part in a race. -/
inductive Racer (A G O : Type)
  | adder (a : A)
  | reader (g : G)
  | other (o : O)
deriving DecidableEq

/-- A race for a key over one connection: adders with their values, readers, and others with their
errands, each within a context. -/
structure Race (A G O : Type) where
  conn : Connection (Clocked Memory)
  key : Bytes
  value : A → Bytes
  errand : O → Errand
  context : Racer A G O → Context

namespace Race

variable {A G O : Type} (R : Race A G O)

/-- What a racer is told. -/
abbrev Answer : Racer A G O → Type
  | .adder _ => Except Failure Unit
  | .reader _ => Except Failure Bytes
  | .other o => Except Failure (R.errand o).Reply

/-- The cache of adders and readers, which has no span of its own. -/
abbrev cache : Cache (Clocked Memory) := ⟨R.conn, none⟩

/-- What a racer does. What is added never expires. -/
def program : (i : Racer A G O) → Program (Link (Clocked Memory)) (R.Answer i)
  | .adder a => (R.cache.add (R.context (.adder a)) R.key (R.value a) none).run
  | .reader g => (R.cache.get (R.context (.reader g)) R.key).run
  | .other o => (R.errand o).run R.conn (R.context (.other o))

/-- The racers before the first of them moves. -/
def start (l : Link (Clocked Memory)) : Crowd Event (Link (Clocked Memory)) R.Answer :=
  ⟨R.program, none, l, []⟩

/-- The conditional write by which an adder adds its value. -/
abbrev claim (a : A) : Command := .compareAndSwap R.key none (R.value a) none

/-- The adder has still to claim the key. -/
def Claims (a : A) (x : Program (Link (Clocked Memory)) (Except Failure Unit)) : Prop :=
  x.Owes Memory.exec Memory.IsOpen (R.claim a) Cache.AddAnswers (· = .error .cancelled)

/-- The reader has still to read the key. -/
def Asks (x : Program (Link (Clocked Memory)) (Except Failure Bytes)) : Prop :=
  x.Owes Memory.exec Memory.IsOpen (.get R.key) Cache.GetAnswers (· = .error .cancelled)

variable {R}

/-- How the program of a racer can be while the key is vacant. -/
def Waits (R : Race A G O) : (i : Racer A G O) → Program (Link (Clocked Memory)) (R.Answer i) → Prop
  | .adder a, x => R.Claims a x ∨ x.EndsWith (· = .error .cancelled)
  | .reader _, x => R.Asks x ∨ x.EndsWith fun _ => True
  | .other _, x => x.Keeps (Link.Up Memory.IsOpen) (Link.Spares R.key)

/-- How the program of a racer can be when an adder has won and events were told since. -/
def Settled (R : Race A G O) (w : A) (since : List (Racer A G O × Event)) :
    (i : Racer A G O) → Program (Link (Clocked Memory)) (R.Answer i) → Prop
  | .adder a, x =>
    a = w ∧ x.EndsWith (fun r => r = .ok () ∨ r = .error .cancelled) ∨
    a ≠ w ∧ (R.Claims a x ∨
      x.EndsWith fun r => r = .error .keyAlreadyExists ∨ r = .error .cancelled)
  | .reader g, x =>
    R.Asks x ∨ x.EndsWith fun r => (.reader g, .command (.get R.key)) ∈ since →
      r = .ok (R.value w) ∨ r = .error .cancelled
  | .other _, x => x.Keeps (Link.Up Memory.IsOpen) (Link.Spares R.key)

variable {l l' : Link (Clocked Memory)} {w : A} {since : List (Racer A G O × Event)}
  {k : Access} {es : List Event}

theorem waits_program (hd : R.conn.driver = Memory.driver true)
    (spares : ∀ o, (R.errand o).Spares R.key) (i : Racer A G O) : R.Waits i (R.program i) := by
  cases i with
  | adder a => exact .inl (Cache.owes_add R.cache hd _ R.key (R.value a) none)
  | reader g => exact .inl (Cache.owes_get R.cache hd _ R.key)
  | other o => exact Errand.keeps_run hd _ (spares o)

/-- A move while the key is vacant leaves it so, unless an adder claims the key, and wins. -/
theorem Waits.moves {i : Racer A G O} {x x' : Program (Link (Clocked Memory)) (R.Answer i)}
    (move : x.Moves l k es x' l') (hl : l.Vacant R.key) (h : R.Waits i x) :
    l'.Vacant R.key ∧ R.Waits i x' ∧ (∀ a c, i = .adder a → .command c ∉ es) ∨
      ∃ a, i = .adder a ∧ es = [.command (R.claim a)] ∧ l'.Held R.key (R.value a) ∧
        R.Settled a [] i x' := by
  cases i with
  | adder a =>
    obtain h | h := h
    · obtain ⟨rfl, he, hx⟩ | ⟨he, rfl, hx⟩ := h.moves move hl.up
      · exact .inl ⟨hl, hx, fun _ c _ => he c⟩
      · obtain ⟨hr, hh⟩ := hl.swap (R.value a)
        exact .inr ⟨a, rfl, he, hh, .inl ⟨rfl, hx.mono fun r hr' => hr' _ hr⟩⟩
    · obtain ⟨rfl, he, hx⟩ := h.moves move
      exact .inl ⟨hl, .inr hx, fun _ c _ => he c⟩
  | reader g =>
    obtain h | h := h
    · obtain ⟨rfl, -, hx⟩ | ⟨-, rfl, hx⟩ := h.moves move hl.up
      · exact .inl ⟨hl, hx.imp id fun hx => hx.mono fun _ _ => trivial, nofun⟩
      · exact .inl ⟨hl.get, .inr (hx.mono fun _ _ => trivial), nofun⟩
    · obtain ⟨rfl, -, hx⟩ := h.moves move
      exact .inl ⟨hl, .inr hx, nofun⟩
  | other o =>
    obtain ⟨hs, hx⟩ := Timed.Keeps.moves (fun _ hl => hl.spares R.key) move h hl.up
    exact .inl ⟨hl.spares hs, hx, nofun⟩

/-- A move when an adder has won leaves the key with its value. -/
theorem Settled.moves {i : Racer A G O} {x x' : Program (Link (Clocked Memory)) (R.Answer i)}
    (move : x.Moves l k es x' l') (hl : l.Held R.key (R.value w)) (h : R.Settled w since i x) :
    l'.Held R.key (R.value w) ∧ R.Settled w (since ++ es.map fun e => (i, e)) i x' := by
  cases i with
  | adder a =>
    obtain ⟨ha, h⟩ | ⟨ha, h | h⟩ := h
    · obtain ⟨rfl, -, hx⟩ := h.moves move
      exact ⟨hl, .inl ⟨ha, hx⟩⟩
    · obtain ⟨rfl, -, hx⟩ | ⟨-, rfl, hx⟩ := h.moves move hl.up
      · exact ⟨hl, .inr ⟨ha, hx.imp id fun hx => hx.mono fun _ => .inr⟩⟩
      · obtain ⟨hr, hh⟩ := hl.swap (R.value a)
        exact ⟨hh, .inr ⟨ha, .inr (hx.mono fun r hr' => hr' _ hr)⟩⟩
    · obtain ⟨rfl, -, hx⟩ := h.moves move
      exact ⟨hl, .inr ⟨ha, .inr hx⟩⟩
  | reader g =>
    obtain h | h := h
    · obtain ⟨rfl, -, hx⟩ | ⟨-, rfl, hx⟩ := h.moves move hl.up
      · exact ⟨hl, hx.imp id fun hx => hx.mono fun _ hr _ => .inr hr⟩
      · obtain ⟨hr, hh⟩ := hl.get
        exact ⟨hh, .inr (hx.mono fun r hr' _ => hr' _ hr)⟩
    · obtain ⟨rfl, he, hx⟩ := h.moves move
      refine ⟨hl, .inr (hx.mono fun r hr hm => hr ?_)⟩
      simpa [he] using hm
  | other o =>
    obtain ⟨hs, hx⟩ := Timed.Keeps.moves (fun _ hl => hl.spares R.key) move h hl.up
    exact ⟨hl.spares hs, hx⟩

/-- What other racers tell of changes nothing for a racer. -/
theorem Settled.append {i j : Racer A G O} (hij : j ≠ i)
    {x : Program (Link (Clocked Memory)) (R.Answer j)} (h : R.Settled w since j x)
    (es : List Event) : R.Settled w (since ++ es.map fun e => (i, e)) j x := by
  cases j with
  | adder a => exact h
  | reader g =>
    refine h.imp id fun h => h.mono fun r hr hm => hr ?_
    simpa [Ne.symm hij] using hm
  | other o => exact h

/-- The racers that have not won when another adder wins. -/
theorem Waits.settled {j : Racer A G O} (hj : j ≠ .adder w)
    {x : Program (Link (Clocked Memory)) (R.Answer j)} (h : R.Waits j x) : R.Settled w [] j x := by
  cases j with
  | adder a =>
    exact .inr ⟨fun he => hj (he ▸ rfl), h.imp id fun h => h.mono fun _ => .inr⟩
  | reader g => exact h.imp id fun h => h.mono fun _ _ => nofun
  | other o => exact h

/-! ## The course of a race -/

variable {c c' d : Crowd Event (Link (Clocked Memory)) R.Answer}
  {before : List (Racer A G O × Event)}

/-- No adder has claimed the key, which is vacant. -/
structure Unclaimed (R : Race A G O) (c : Crowd Event (Link (Clocked Memory)) R.Answer) :
    Prop where
  key : c.state.Vacant R.key
  racers : ∀ i, R.Waits i (c.programs i)
  log : ∀ a e, (.adder a, .command e) ∉ c.log

/-- An adder has won the key, which has its value: what was told before its claim, and since. -/
structure Won (R : Race A G O) (w : A) (before since : List (Racer A G O × Event))
    (c : Crowd Event (Link (Clocked Memory)) R.Answer) : Prop where
  key : c.state.Held R.key (R.value w)
  racers : ∀ i, R.Settled w since i (c.programs i)
  log : c.log = before ++ (.adder w, .command (R.claim w)) :: since
  first : (.adder w, .command (R.claim w)) ∉ before

theorem unclaimed_start (hd : R.conn.driver = Memory.driver true)
    (spares : ∀ o, (R.errand o).Spares R.key) (hl : l.Vacant R.key) : R.Unclaimed (R.start l) :=
  ⟨hl, waits_program hd spares, nofun⟩

theorem Unclaimed.step (h : R.Unclaimed c) (hs : Crowd.Step Link.Ages c c') :
    R.Unclaimed c' ∨ ∃ w, R.Won w c.log [] c' := by
  cases hs with
  | drift state programs _ log =>
    exact .inl ⟨h.key.ages state, programs ▸ h.racers, log ▸ h.log⟩
  | client i move others _ log =>
    obtain ⟨hk, hx, hn⟩ | ⟨w, rfl, rfl, hk, hx⟩ := (h.racers i).moves move h.key
    · refine .inl ⟨hk, fun j => ?_, fun a e hm => ?_⟩
      · by_cases hj : j = i
        · exact hj ▸ hx
        · exact others j hj ▸ h.racers j
      · rw [log, List.mem_append, List.mem_map] at hm
        obtain hm | ⟨e', he, heq⟩ := hm
        · exact h.log a e hm
        · cases heq
          exact hn a e rfl he
    · refine .inr ⟨w, hk, fun j => ?_, log, h.log w _⟩
      by_cases hj : j = .adder w
      · exact hj ▸ hx
      · exact others j hj ▸ (h.racers j).settled hj

theorem Won.step (h : R.Won w before since c) (hs : Crowd.Step Link.Ages c c') :
    ∃ more, R.Won w before (since ++ more) c' := by
  cases hs with
  | drift state programs _ log =>
    refine ⟨[], h.key.ages state, ?_, ?_, h.first⟩
    · simpa only [List.append_nil, programs] using h.racers
    · rw [log, List.append_nil, h.log]
  | client i move others _ log =>
    obtain ⟨hk, hx⟩ := (h.racers i).moves move h.key
    refine ⟨_, hk, fun j => ?_, by rw [log, h.log, List.append_assoc, List.cons_append], h.first⟩
    by_cases hj : j = i
    · exact hj ▸ hx
    · exact others j hj ▸ (h.racers j).append hj _

/-- What an adder has won stays won. -/
theorem Won.reaches (h : R.Won w before since c) (hr : Crowd.Reaches Link.Ages c d) :
    ∃ more, R.Won w before (since ++ more) d := by
  refine hr.invariant (fun d => ∃ more, R.Won w before (since ++ more) d)
    ⟨[], by rwa [List.append_nil]⟩ fun ⟨more, hw⟩ hs => ?_
  obtain ⟨more', hw'⟩ := hw.step hs
  exact ⟨more ++ more', by rwa [← List.append_assoc]⟩

/-- The key is vacant until an adder wins it. -/
theorem Unclaimed.reaches (h : R.Unclaimed c) (hr : Crowd.Reaches Link.Ages c d) :
    R.Unclaimed d ∨ ∃ w before since, R.Won w before since d := by
  refine hr.invariant (fun d => R.Unclaimed d ∨ ∃ w before since, R.Won w before since d)
    (.inl h) fun hd hs => ?_
  obtain hd | ⟨w, before, since, hw⟩ := hd
  · exact (hd.step hs).imp id fun ⟨w, hw⟩ => ⟨w, _, [], hw⟩
  · obtain ⟨more, hw⟩ := hw.step hs
    exact .inr ⟨w, before, since ++ more, hw⟩

/-- An adder that has come to its end, and was not cancelled. -/
def Completed (c : Crowd Event (Link (Clocked Memory)) R.Answer) (a : A) : Prop :=
  ∃ r, c.programs (.adder a) = .done r ∧ r ≠ .error .cancelled

/-- While the key is vacant no adder completes. -/
theorem Unclaimed.not_completed (h : R.Unclaimed c) (a : A) : ¬ Completed c a := by
  rintro ⟨r, hr, hn⟩
  have hx := h.racers (.adder a)
  rw [hr] at hx
  exact hx.elim False.elim hn

/-- What the adder that has won is told. -/
theorem Won.answer (h : R.Won w before since c) (ha : Completed c w) :
    c.programs (.adder w) = .done (.ok ()) := by
  obtain ⟨r, hr, hn⟩ := ha
  have hx := h.racers (.adder w)
  rw [hr] at hx ⊢
  obtain ⟨-, rfl | hx⟩ | ⟨hw, -⟩ := hx
  · rfl
  · exact absurd hx hn
  · exact absurd rfl hw

/-- What the other adders are told. -/
theorem Won.answer_of_ne (h : R.Won w before since c) {a : A} (ha : a ≠ w) (hc : Completed c a) :
    c.programs (.adder a) = .done (.error .keyAlreadyExists) := by
  obtain ⟨r, hr, hn⟩ := hc
  have hx := h.racers (.adder a)
  rw [hr] at hx ⊢
  obtain ⟨rfl, -⟩ | ⟨-, hx | rfl | hx⟩ := hx
  · exact absurd rfl ha
  · exact hx.elim
  · rfl
  · exact absurd hx hn

/-- What was told after a claim of the winner was told since its first. -/
theorem Won.mem_since (h : R.Won w before since c) {before' since' : List (Racer A G O × Event)}
    (hc : c.log = before' ++ (.adder w, .command (R.claim w)) :: since')
    {e : Racer A G O × Event} (he : e ∈ since') : e ∈ since := by
  rw [h.log, List.append_eq_append_iff] at hc
  obtain ⟨more, rfl, hs⟩ | ⟨more, rfl, hs⟩ := hc
  · cases more with
    | nil => simp_all
    | cons _ more =>
      rw [List.cons_append, List.cons.injEq] at hs
      rw [hs.2]
      simp [he]
  · cases more with
    | nil => simp_all
    | cons _ more =>
      rw [List.cons_append, List.cons.injEq] at hs
      refine absurd ?_ h.first
      simp [hs.1]

/-- The race is decided: one adder has won, and the others are told so. -/
structure Decided (R : Race A G O) (first last : Crowd Event (Link (Clocked Memory)) R.Answer)
    (w : A) : Prop where
  claimed : (.adder w, .command (R.claim w)) ∈ last.log
  winner : last.programs (.adder w) = .done (.ok ())
  losers : ∀ a, a ≠ w → last.programs (.adder a) = .done (.error .keyAlreadyExists)
  /-- Since the claim of the winner was told, the key has its value. -/
  value : ∀ c, first.Reaches Link.Ages c → c.Reaches Link.Ages last →
    (.adder w, .command (R.claim w)) ∈ c.log →
    c.state.store.store.live? R.key c.state.store.now = some (R.value w)
  /-- Every reader whose reading was told after it is answered this value. -/
  readers : ∀ before since, last.log = before ++ (.adder w, .command (R.claim w)) :: since →
    ∀ g r, (.reader g, .command (.get R.key)) ∈ since → last.programs (.reader g) = .done r →
      r ≠ .error .cancelled → r = .ok (R.value w)

/-- However the racers are scheduled, once all adders have completed one of them has won. -/
theorem one_winner [Nonempty A] (hd : R.conn.driver = Memory.driver true)
    (spares : ∀ o, (R.errand o).Spares R.key) (up : l.Up Memory.IsOpen)
    (free : l.store.store.live? R.key l.store.now = none)
    (reaches : (R.start l).Reaches Link.Ages c) (completed : ∀ a, Completed c a) :
    ∃ w, R.Decided (R.start l) c w := by
  have start := unclaimed_start hd spares ⟨up, free⟩
  obtain h | ⟨w, before, since, h⟩ := start.reaches reaches
  · obtain ⟨a⟩ := ‹Nonempty A›
    exact absurd (completed a) (h.not_completed a)
  refine ⟨w, ?_, h.answer (completed w), fun a ha => h.answer_of_ne ha (completed a), ?_, ?_⟩
  · rw [h.log]
    exact List.mem_append_right _ List.mem_cons_self
  · intro d hr hrc hm
    obtain hu | ⟨w', before', since', hw⟩ := start.reaches hr
    · exact absurd hm (hu.log w _)
    -- Two adders cannot both have won: one of them would have been told otherwise.
    obtain ⟨more, hw'⟩ := hw.reaches hrc
    have hww : w = w' := Classical.byContradiction fun hne => by
      have hx := hw'.answer_of_ne hne (completed w)
      rw [h.answer (completed w)] at hx
      cases hx
    rw [hww]
    exact hw.key.live?
  · intro before' since' hlog g r hm hr hn
    have hx := h.racers (.reader g)
    rw [hr] at hx
    obtain hx | hx := hx
    · exact hx.elim
    · exact (hx (h.mem_since hlog hm)).resolve_right hn

/-- Two adders, two readers, and a client that writes another key. -/
def duel (atomicSwap : Bool) : Race Bool Bool Unit where
  conn := .ofConfig (Memory.driver atomicSwap) {}
  key := [1]
  value a := if a then [7] else [8]
  errand _ := .call none (.set [2] [9] none)
  context _ := {}

/-- A connection that is up, to a store in which a value for the key of the duel has expired. -/
def afterExpiry : Link (Clocked Memory) :=
  ⟨.connected, 10, Table.empty.insert [1] ⟨[6], some 5⟩, true⟩

/-- The duel after one adder made some moves, a reader took out what had expired, and all others
took their turns, the other adder before the first. -/
def duelOver (atomicSwap : Bool) (lead : Nat) :
    Crowd Event (Link (Clocked Memory)) (duel atomicSwap).Answer :=
  let moves (n : Nat) (i : Racer Bool Bool Unit) := List.replicate n i
  (moves lead (.adder true) ++ moves 8 (.reader false) ++ moves 8 (.adder false) ++
    moves 8 (.other ()) ++ moves 8 (.adder true) ++ moves 8 (.reader true)).foldl Crowd.turn
      ((duel atomicSwap).start afterExpiry)

/-- An adder that has only looked whether the client is up can still lose. -/
theorem one_winner_of_duel :
    (∀ o, ((duel true).errand o).Spares (duel true).key) ∧ afterExpiry.Up Memory.IsOpen ∧
      afterExpiry.store.store.live? (duel true).key afterExpiry.store.now = none ∧
      ((duel true).start afterExpiry).Reaches Link.Ages (duelOver true 1) ∧
      (∀ a, Completed (duelOver true 1) a) ∧
      (duel true).Decided ((duel true).start afterExpiry) (duelOver true 1) false := by
  have spares (o : Unit) : ((duel true).errand o).Spares (duel true).key := by
    change ([1] : Bytes) ≠ [2]
    decide
  have up : afterExpiry.Up Memory.IsOpen := ⟨rfl, rfl⟩
  have free : afterExpiry.store.store.live? (duel true).key afterExpiry.store.now = none := by
    decide
  have reaches : ((duel true).start afterExpiry).Reaches Link.Ages (duelOver true 1) :=
    Crowd.reaches_turns _ _
  have late : (duelOver true 1).programs (.adder true) = .done (.error .keyAlreadyExists) := rfl
  have completed (a : Bool) : Completed (duelOver true 1) a := by
    cases a with
    | false => exact ⟨.ok (), rfl, nofun⟩
    | true => exact ⟨_, late, nofun⟩
  refine ⟨spares, up, free, reaches, completed, ?_⟩
  obtain ⟨w, h⟩ := one_winner rfl spares up free reaches completed
  cases w with
  | false => exact h
  | true => cases late.symm.trans h.winner

/-- If conditional writes are not atomic, then both win. -/
example : (duelOver false 3).programs (.adder false) = .done (.ok ()) ∧
    (duelOver false 3).programs (.adder true) = .done (.ok ()) := ⟨rfl, rfl⟩

end Race

end KvBridge
