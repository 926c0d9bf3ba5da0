import KvBridge.Connection
import KvBridge.Proofs.Timed.Instant

/-!
# Connections to drivers that answer at once

A driver of which every command settles (`Driver.Answers`) makes every call to its connection
settle, under each context that nobody cancels: a deadline cuts nothing short that takes no time.
`settles_connect` and `settles_close` say what the two transitions do, `settles_perform` what a
command does that sets the client up first.
-/

namespace KvBridge

variable {α β δ : Type}

/-- Each command of the driver is done at once, in the way of a function. -/
def Driver.Answers (d : Driver δ) (exec : (c : Command) → δ → Except Cause c.Reply × δ) : Prop :=
  ∀ c s, (d.call c).Settles s (exec c s).1 (exec c s).2 []

theorem Clocked.answers_driver (name : String) (atomicSwap : Bool)
    (exec : (c : Command) → Reading → β → Except Cause c.Reply × β) :
    (Clocked.driver name atomicSwap exec).Answers fun c s =>
      ((exec c s.now s.store).1, { s with store := (exec c s.now s.store).2 }) :=
  fun _ _ => .act _ _

namespace Connection

variable {conn : Connection δ} {exec : (c : Command) → δ → Except Cause c.Reply × δ}
  {ctx : Context} {l : Link δ}

theorem settles_invoke (h : conn.driver.Answers exec) (c : Command) (l : Link δ) :
    (conn.invoke c).Settles l (exec c l.store).1 { l with store := (exec c l.store).2 }
      [.command c] :=
  .emit _ (.zoom (fun _ _ => rfl) (fun _ => rfl) (fun _ _ _ => rfl) (h c l.store) rfl)

theorem settles_guarded (h : conn.driver.Answers exec) (ctx : Context)
    (hc : ctx.cancelledAt = none) (c : Command) (failed : Cause → Failure) (l : Link δ) :
    Call.Settles (conn.guarded ctx c failed) l ((exec c l.store).1.mapError failed)
      { l with store := (exec c l.store).2 } [.command c] :=
  Context.settles_within hc ((settles_invoke h c l).bind (.done _ _))

theorem settles_request (h : conn.driver.Answers exec) (hc : ctx.cancelledAt = none)
    (c : Command) (failed : Cause → Failure) (l : Link δ) :
    Call.Settles (conn.request ctx c failed) l ((exec c l.store).1.mapError failed)
      { l with store := (exec c l.store).2 } [.command c] :=
  settles_guarded h (ctx.orTimeout conn.requestTimeout) hc c failed l

/-- A probe that succeeds ends the wait for the backend. -/
theorem settles_awaitReady (h : conn.driver.Answers exec) (probe : Context)
    (hp : probe.cancelledAt = none) (left : Nat) {d : δ} (hr : exec .ready l.store = (.ok (), d)) :
    Call.Settles (conn.awaitReady ctx probe (left + 1)) l (.ok ()) { l with store := d }
      [.command .ready] := by
  have hg := settles_guarded h probe hp .ready (.transport "ready" none) l
  rw [hr] at hg
  exact hg.bind (.done _ _)

theorem settles_isConnected (l : Link δ) :
    Timed.Settles isConnected l (l.phase == .connected) l ([] : List Event) := .look _ _

theorem settles_connect_of_connected (hl : l.phase = .connected) :
    Call.Settles (conn.connect ctx) l (.ok ()) l [] := by
  have hw := settles_isConnected l
  rw [hl] at hw
  exact .alone (hw.bind (.done _ _))

/-- Setting up a client whose backend is ready at once. -/
theorem settles_connect (h : conn.driver.Answers exec) (hc : ctx.cancelledAt = none)
    (hl : l.phase = .disconnected) {d₁ d₂ : δ} (h₁ : exec .connect l.store = (.ok (), d₁))
    (h₂ : exec .ready d₁ = (.ok (), d₂)) :
    Call.Settles (conn.connect ctx) l (.ok ()) ⟨.connected, d₂⟩
      [.command .connect, .command .ready, .notice .info "connected"] := by
  obtain ⟨probes, hn⟩ : ∃ n, conn.readiness.probes = n + 1 :=
    ⟨conn.readiness.probes - 1, by unfold ReadinessPolicy.probes; omega⟩
  have hg := settles_guarded h { ctx with timeout := some conn.requestTimeout } hc
    .connect (.connection conn.driver.name 1) l
  rw [h₁] at hg
  have he : Call.Settles (conn.establish ctx) l (.ok ()) { l with store := d₂ }
      [.command .connect, .command .ready] := by
    unfold establish
    rw [hn]
    exact hg.bind_ok (settles_awaitReady (l := { l with store := d₁ }) h
      { ctx with timeout := some conn.requestTimeout } hc probes h₂)
  have hw := settles_isConnected l
  rw [hl] at hw
  exact .alone (hw.bind (.bind (Context.settles_within hc he)
    (.bind (.change _ _) (.bind (.tell _ _) (.done _ _)))))

theorem settles_close_of_disconnected (hl : l.phase = .disconnected) :
    Call.Settles (conn.close ctx) l (.ok ()) l [] := by
  have hw := settles_isConnected l
  rw [hl] at hw
  exact .alone (hw.bind (.done _ _))

theorem settles_close (h : conn.driver.Answers exec) (hc : ctx.cancelledAt = none)
    (hl : l.phase = .connected) {d : δ} (hd : exec .close l.store = (.ok (), d)) :
    Call.Settles (conn.close ctx) l (.ok ()) ⟨.disconnected, d⟩
      [.notice .info "closing connection", .command .close] := by
  have hr := settles_request h hc .close (.transport "close" none)
    { l with phase := .disconnected }
  have hw := settles_isConnected l
  rw [hd] at hr
  rw [hl] at hw
  exact .alone (hw.bind (.bind (.change _ _) (.bind (.tell _ _) hr)))

theorem settles_acquire_of_connected (hl : l.phase = .connected) :
    Call.Settles (conn.acquire ctx) l (.ok ()) l [] := by
  have hw := settles_isConnected l
  rw [hl] at hw
  exact hw.bind (.done _ _)

theorem settles_acquire (h : conn.driver.Answers exec) (hc : ctx.cancelledAt = none)
    (hl : l.phase = .disconnected) {d₁ d₂ : δ} (h₁ : exec .connect l.store = (.ok (), d₁))
    (h₂ : exec .ready d₁ = (.ok (), d₂)) :
    Call.Settles (conn.acquire ctx) l (.ok ()) ⟨.connected, d₂⟩
      [.command .connect, .command .ready, .notice .info "connected"] := by
  have hw := settles_isConnected l
  rw [hl] at hw
  exact hw.bind (settles_connect h hc hl h₁ h₂)

/-- A command that sets the client up first, by how the client is set up. -/
theorem settles_perform (h : conn.driver.Answers exec) (hc : ctx.cancelledAt = none)
    {l' : Link δ} {es : List Event} (ha : Call.Settles (conn.acquire ctx) l (.ok ()) l' es)
    (c : Command) (failed : Cause → Failure) :
    Call.Settles (conn.perform ctx c failed) l ((exec c l'.store).1.mapError failed)
      { l' with store := (exec c l'.store).2 } (es ++ [.command c]) :=
  ha.bind_ok (settles_request h hc c failed l')

end Connection

end KvBridge
