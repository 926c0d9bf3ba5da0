import KvBridge.Proofs.Connection.Reached
import KvBridge.Proofs.Timed.Crowd

/-!
# Clients with one command to give

A client that has one command for the store owes it at first (`Timed.Owes`), and from then on only
has to come to its end (`Timed.EndsWith`): whatever others do to the store between its moves, its
answer depends on the reply alone, unless it is cancelled. While the client of the connection is up,
each call to it is such a client (`Connection.owes_perform`), and keeps at every step what its
command keeps (`Connection.keeps_perform`).
-/

namespace KvBridge

variable {α β γ : Type}

namespace Timed

/-! ## Coming to an end -/

/-- The program takes no step on the state and tells of no command, and if it comes to its end,
then with such an answer. -/
def EndsWith {σ α : Type} (post : α → Prop) : Timed Event σ α → Prop
  | .done a => post a
  | .emit e next => (∀ c, e ≠ .command c) ∧ next.EndsWith post
  | .guarded g body next =>
    (g.cancelledAt.isSome → (next (.error .cancelled)).EndsWith post) ∧
      body.EndsWith fun b => (next (.ok b)).EndsWith post
  | _ => False

namespace EndsWith

variable {σ : Type} {x : Timed Event σ α} {post post' : α → Prop}

theorem mono (h : x.EndsWith post) (hp : ∀ a, post a → post' a) : x.EndsWith post' := by
  induction x with
  | done a => exact hp a h
  | emit e next ih => exact ⟨h.1, ih h.2 hp⟩
  | guarded g body next ihb ihn => exact ⟨fun hg => ihn _ (h.1 hg) hp,
      ihb h.2 fun b hb => ihn (.ok b) hb hp⟩
  | step | wait | never | exclusive => exact h.elim

theorem bind {f : α → Timed Event σ β} {post : β → Prop}
    (h : x.EndsWith fun a => (f a).EndsWith post) : (x.bind f).EndsWith post := by
  induction x with
  | done a => exact h
  | emit e next ih => exact ⟨h.1, ih h.2⟩
  | guarded g body next _ ihn => exact ⟨fun hg => ihn _ (h.1 hg),
      h.2.mono fun b hb => ihn (.ok b) hb⟩
  | step | wait | never | exclusive => exact h.elim

theorem isReady (h : x.EndsWith post) : x.isReady = true := by
  induction x with
  | done | emit => rfl
  | guarded g body next ih _ => exact ih h.2
  | step | wait | never | exclusive => exact h.elim

/-- A program that comes to its end moves towards it. -/
theorem moves {s s' : σ} {k : Access} {es : List Event} {x' : Timed Event σ α}
    (move : x.Moves s k es x' s') (h : x.EndsWith post) :
    s' = s ∧ (∀ c, .command c ∉ es) ∧ x'.EndsWith post := by
  induction move with
  | step | wake | enter | inside | leave => exact h.elim
  | announce => exact h.2.elim
  | tell e _ s => exact ⟨rfl, fun c hc => h.1 c (List.mem_singleton.1 hc).symm, h.2⟩
  | under g next _ ih =>
    obtain ⟨hs, he, hx⟩ := ih h.2
    exact ⟨hs, he, h.1, hx⟩
  | ended g b next s => exact ⟨rfl, nofun, h.2⟩
  | @cut _ _ g why x hc next s =>
    cases why with
    | cancelled => exact ⟨rfl, nofun, h.1 hc⟩
    | expired => simp [Guard.mayCut, h.2.isReady] at hc

end EndsWith

/-! ## Owing a command -/

variable {exec : (c : Command) → Reading → β → Except Cause c.Reply × β} {isOpen : β → Prop}
  {c : Command}

/-- While the client of the connection is up, the program has still to give the command to the
store. Its answer to the reply has `post`; if it is cancelled before, its answer has `gone`. -/
def Owes (exec : (c : Command) → Reading → β → Except Cause c.Reply × β) (isOpen : β → Prop)
    (c : Command) {α : Type} (post : Except Cause c.Reply → α → Prop) (gone : α → Prop) :
    Timed Event (Link (Clocked β)) α → Prop
  | .step act next =>
    ∀ l, l.Up isOpen → (act l).2 = l ∧ (next (act l).1).Owes exec isOpen c post gone
  | .emit e (.step act next) =>
    e = .command c ∧ ∀ l, l.Up isOpen → (act l).2 = l.served exec c ∧
      (next (act l).1).EndsWith (post (exec c l.store.now l.store.store).1)
  | .guarded g body next =>
    (g.cancelledAt.isSome → (next (.error .cancelled)).EndsWith gone ∧
      ∀ r, (next (.error .cancelled)).EndsWith (post r)) ∧
    body.Owes exec isOpen c (fun r b => (next (.ok b)).EndsWith (post r))
      fun b => (next (.ok b)).EndsWith gone
  | _ => False

namespace Owes

variable {x : Timed Event (Link (Clocked β)) α} {post post' : Except Cause c.Reply → α → Prop}
  {gone gone' : α → Prop}

theorem mono (h : x.Owes exec isOpen c post gone) (hp : ∀ r a, post r a → post' r a)
    (hg : ∀ a, gone a → gone' a) : x.Owes exec isOpen c post' gone' := by
  induction x with
  | step act next ih => exact fun l hl => ⟨(h l hl).1, ih _ (h l hl).2 hp hg⟩
  | emit e next ih =>
    cases next with
    | step act next => exact ⟨h.1, fun l hl => ⟨(h.2 l hl).1, (h.2 l hl).2.mono (hp _)⟩⟩
    | _ => exact h.elim
  | guarded g body next ihb _ =>
    exact ⟨fun hc => ⟨(h.1 hc).1.mono hg, fun r => ((h.1 hc).2 r).mono (hp r)⟩,
      ihb h.2 (fun r _ hb => hb.mono (hp r)) fun _ hb => hb.mono hg⟩
  | done | wait | never | exclusive => exact h.elim

theorem bind {f : α → Timed Event (Link (Clocked β)) γ} {post : Except Cause c.Reply → γ → Prop}
    {gone : γ → Prop}
    (h : x.Owes exec isOpen c (fun r a => (f a).EndsWith (post r)) fun a => (f a).EndsWith gone) :
    (x.bind f).Owes exec isOpen c post gone := by
  induction x with
  | step act next ih => exact fun l hl => ⟨(h l hl).1, ih _ (h l hl).2⟩
  | emit e next ih =>
    cases next with
    | step act next => exact ⟨h.1, fun l hl => ⟨(h.2 l hl).1, (h.2 l hl).2.bind⟩⟩
    | _ => exact h.elim
  | guarded g body next _ _ =>
    exact ⟨fun hc => ⟨(h.1 hc).1.bind, fun r => ((h.1 hc).2 r).bind⟩,
      h.2.mono (fun _ _ hb => hb.bind) fun _ hb => hb.bind⟩
  | done | wait | never | exclusive => exact h.elim

theorem isReady (h : x.Owes exec isOpen c post gone) : x.isReady = true := by
  induction x with
  | step | emit => rfl
  | guarded g body next ih _ => exact ih h.2
  | done | wait | never | exclusive => exact h.elim

/-- A program that owes a command either stays so, or has been cancelled, or gives the command. -/
theorem moves {l l' : Link (Clocked β)} {k : Access} {es : List Event}
    {x' : Timed Event (Link (Clocked β)) α} (move : x.Moves l k es x' l') (hl : l.Up isOpen)
    (h : x.Owes exec isOpen c post gone) :
    (l' = l ∧ (∀ c, .command c ∉ es) ∧ (x'.Owes exec isOpen c post gone ∨ x'.EndsWith gone)) ∨
      es = [.command c] ∧ l' = l.served exec c ∧
        x'.EndsWith (post (exec c l.store.now l.store.store).1) := by
  induction move with
  | step act next l => exact .inl ⟨(h l hl).1, nofun, .inl (h l hl).2⟩
  | announce e act next l =>
    obtain ⟨rfl, h⟩ := h
    exact .inr ⟨rfl, h l hl⟩
  | @tell _ e x hx l =>
    cases x with
    | step => cases hx
    | _ => exact h.elim
  | under g next _ ih =>
    obtain ⟨hs, he, hx⟩ | ⟨he, hs, hx⟩ := ih hl h.2
    · refine .inl ⟨hs, he, hx.imp (fun hx => ⟨h.1, hx⟩) fun hx => ⟨fun hc => (h.1 hc).1, hx⟩⟩
    · exact .inr ⟨he, hs, fun hc => (h.1 hc).2 _, hx⟩
  | ended g b next l => exact h.2.elim
  | @cut _ _ g why x hc next l =>
    cases why with
    | cancelled => exact .inl ⟨rfl, nofun, .inr (h.1 hc).1⟩
    | expired => simp [Guard.mayCut, h.2.isReady] at hc
  | wake | enter | inside | leave => exact h.elim

end Owes

end Timed

/-! ## Calls to a connection -/

namespace Connection

variable {conn : Connection (Clocked β)} {name : String} {atomicSwap : Bool}
  {exec : (c : Command) → Reading → β → Except Cause c.Reply × β} {isOpen : β → Prop}

/-- A call owes its command. It answers to the reply, unless it is cancelled. -/
theorem owes_perform (hd : conn.driver = Clocked.driver name atomicSwap exec) (ctx : Context)
    (c : Command) (failed : Cause → Failure) :
    (conn.perform ctx c failed).run.Owes exec isOpen c
      (fun r a => a = r.mapError failed ∨ a = .error .cancelled) (· = .error .cancelled) := by
  obtain ⟨driver, readiness, requestTimeout⟩ := conn
  subst hd
  intro l hl
  refine ⟨rfl, ?_⟩
  dsimp only
  rw [hl.phase]
  exact ⟨fun _ => ⟨rfl, fun _ => .inr rfl⟩, rfl, fun l _ => ⟨rfl, .inl rfl⟩⟩

/-- All steps of a call keep to what its command keeps to. -/
theorem keeps_perform (hd : conn.driver = Clocked.driver name atomicSwap exec) (ctx : Context)
    (c : Command) (failed : Cause → Failure)
    {rel : Link (Clocked β) → Link (Clocked β) → Prop} (refl : ∀ l, l.Up isOpen → rel l l)
    (hc : ∀ l, l.Up isOpen → rel l (l.served exec c)) :
    (conn.perform ctx c failed).run.Keeps (Link.Up isOpen) rel := by
  obtain ⟨driver, readiness, requestTimeout⟩ := conn
  subst hd
  intro l hl
  refine ⟨refl l hl, ?_⟩
  dsimp only
  rw [hl.phase]
  exact ⟨fun l hl => ⟨hc l hl, trivial⟩, fun _ => trivial⟩

end Connection

end KvBridge
