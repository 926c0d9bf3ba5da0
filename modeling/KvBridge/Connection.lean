import KvBridge.Config
import KvBridge.Store.Driver
import KvBridge.Timed.Context

/-!
# Connections

A connection owns a driver and knows whether its client is up. Setting a client up means to connect
it and to wait, for a bounded number of probes, until the backend is ready; a client that was set
up in vain is released again. Only one caller at a time sets the client up or releases it.

* `Link`: the phase of a connection beside the state of its driver;
* `Connection.connect`, `Connection.close`: setting up and releasing;
* `Connection.acquire`: setting up unless the client is up already;
* `Connection.request`: one command within the caller's deadline, or else the configured one.
-/

namespace KvBridge

/-- Whether the client is up. -/
inductive Phase
  | disconnected
  | connected
deriving DecidableEq, Repr

def Phase.name : Phase → String
  | .disconnected => "Disconnected"
  | .connected => "Connected"

/-- The phase of a connection and the state of its driver. -/
structure Link (δ : Type) where
  phase : Phase
  store : δ

/-- A connection: its driver and its settings. -/
structure Connection (δ : Type) where
  driver : Driver δ
  readiness : ReadinessPolicy
  requestTimeout : Duration

namespace Connection

variable {δ α : Type} (conn : Connection δ)

/-- A connection with the settings of a client. -/
def ofConfig (driver : Driver δ) (config : ClientConfig) : Connection δ :=
  ⟨driver, config.readiness, config.requestTimeout⟩

/-- Gives a command to the driver. -/
def invoke (c : Command) : Program (Link δ) (Except Cause c.Reply) :=
  .emit (.command c) ((conn.driver.call c).zoom Link.store fun store l => { l with store })

/-- Gives a command to the driver, within a context. -/
def guarded (ctx : Context) (c : Command) (failed : Cause → Failure) :
    Call (Link δ) c.Reply :=
  ctx.within ((conn.invoke c).bind fun r => .done (r.mapError failed))

/-- Gives a command to the driver, within the caller's deadline or else the configured one. -/
def request (ctx : Context) (c : Command) (failed : Cause → Failure) :
    Call (Link δ) c.Reply :=
  conn.guarded (ctx.orTimeout conn.requestTimeout) c failed

/-- Whether the client is up. -/
def isConnected : Program (Link δ) Bool := Timed.look fun l => l.phase == .connected

/-- Enters a phase. -/
def enter (phase : Phase) : Program (Link δ) Unit := Timed.change fun l => { l with phase }

/-- Probes the backend until it is ready, with a pause after each probe but the last. An answer
that comes too late counts like a failure; a cancellation ends the wait. -/
def awaitReady (ctx probe : Context) : (left : Nat) → Call (Link δ) Unit
  | 0 => throw (.connection conn.driver.name conn.readiness.probes (.text "backend never probed"))
  | left + 1 => ExceptT.mk do
    match ← conn.guarded probe .ready (.transport "ready" none) with
    | .ok () => return .ok ()
    | .error .cancelled => return .error .cancelled
    | .error f =>
      notice .warn "backend not ready"
      if left = 0 then
        return .error (.connection conn.driver.name conn.readiness.probes (.failure f))
      match ← ctx.sleep conn.readiness.interval with
      | .error f => return .error f
      | .ok () => awaitReady ctx probe left

/-- Sets the client up and waits until the backend is ready. Each command has the configured
deadline, whatever the caller's. -/
def establish (ctx : Context) : Call (Link δ) Unit := do
  let probe := { ctx with timeout := some conn.requestTimeout }
  conn.guarded probe .connect (.connection conn.driver.name 1)
  conn.awaitReady ctx probe conn.readiness.probes

/-- Releases the client. -/
def release (ctx : Context) : Call (Link δ) Unit :=
  conn.request ctx .close (.transport "close" none)

/-- Sets the client up unless it is up. A client that was set up in vain is released, so that the
next caller starts anew. -/
def connect (ctx : Context) : Call (Link δ) Unit :=
  Timed.alone do
    if ← isConnected then return .ok ()
    match ← ctx.within (conn.establish ctx) with
    | .ok () =>
      enter .connected
      notice .info "connected"
      return .ok ()
    | .error f =>
      match ← (conn.release ctx).run with
      | .ok () => pure ()
      | .error _ => notice .warn "failed to release client after connect failure"
      return .error f

/-- Releases the client if it is up. The connection counts as down before the client is told. -/
def close (ctx : Context) : Call (Link δ) Unit :=
  Timed.alone do
    if !(← isConnected) then return .ok ()
    enter .disconnected
    notice .info "closing connection"
    conn.release ctx

/-- Sets the client up unless it is up, without waiting for others if it is. -/
def acquire (ctx : Context) : Call (Link δ) Unit :=
  ExceptT.mk do
    if ← isConnected then return .ok ()
    conn.connect ctx

/-- Sets the client up if need be, and gives a command to the driver. -/
def perform (ctx : Context) (c : Command) (failed : Cause → Failure) : Call (Link δ) c.Reply := do
  conn.acquire ctx
  conn.request ctx c failed

/-- The driver's name, if the client is up. -/
def backend? (phase : Phase) : Except Failure String :=
  match phase with
  | .connected => .ok conn.driver.name
  | .disconnected => .error .notConnected

/-- A connection as text. -/
def render (phase : Phase) : String :=
  "ConnectionManager \x7b backend: " ++ Text.quoted conn.driver.name ++ ", state: " ++
    phase.name ++ ", readiness: ReadinessPolicy \x7b attempts: " ++
    toString conn.readiness.attempts ++ ", interval_ms: " ++
    toString conn.readiness.intervalMs ++ " \x7d, .. \x7d"

end Connection

end KvBridge
