import KvBridge.Store.Driver

/-!
# Drivers that misbehave on demand

A scripted driver stands before another one. Each command takes the next fault that the script
holds for commands of its name, and goes through unchanged when none is left.

* `Fault`: how a command is disturbed;
* `Scripted.driver`: a driver behind a script.
-/

namespace KvBridge

/-- How a command is disturbed: it is delayed, then never ends, fails, or is answered with nothing
without reaching the driver. The length of the reply to a batch of reads can be changed. -/
structure Fault where
  delay : Option Duration := none
  hang : Bool := false
  fail : Option Cause := none
  skip : Bool := false
  resize : Option Nat := none

/-- The faults to come, under the names of the commands. -/
abbrev Script := List (String × List Fault)

namespace Script

/-- Adds faults behind those that a name has already. -/
def append (s : Script) (name : String) (faults : List Fault) : Script :=
  match s with
  | [] => [(name, faults)]
  | (n, fs) :: s =>
    if n = name then (n, fs ++ faults) :: s else (n, fs) :: append s name faults

/-- Takes the next fault of a name. -/
def next (name : String) : Script → Option Fault × Script
  | [] => (none, [])
  | (n, fs) :: s =>
    if n = name then
      match fs with
      | [] => (none, (n, []) :: s)
      | f :: fs => (some f, (n, fs) :: s)
    else
      let (f, s) := next name s
      (f, (n, fs) :: s)

end Script

/-- A store behind a script. -/
structure Scripted (δ : Type) where
  script : Script
  store : δ

namespace Scripted

variable {δ : Type}

/-- Cuts a reply to a batch of reads, or fills it up with misses. -/
def resize (n : Nat) : (c : Command) → c.Reply → c.Reply
  | .batchGet _, r => r.take n ++ List.replicate (n - r.length) none
  | .connect, r | .ready, r | .close, r | .get _, r | .put .., r | .putWithTtl .., r
  | .compareAndSwap .., r | .delete _, r | .batchPut _, r | .batchDelete _, r => r

/-- A command with a fault. -/
def disturbed (c : Command) (f : Fault) (forward : Program δ (Except Cause c.Reply)) :
    Program δ (Except Cause c.Reply) := do
  if let some d := f.delay then Timed.pause d.timerMillis
  if f.hang then Timed.never
  else
    match f.fail with
    | some cause => return .error cause
    | none =>
      if f.skip then return .ok c.blank
      else
        let r ← forward
        match f.resize with
        | none => return r
        | some n => return r.map (resize n c)

/-- The driver behind a script. -/
def driver (d : Driver δ) : Driver (Scripted δ) where
  name := d.name
  atomicSwap := d.atomicSwap
  call c := do
    let fault ← Timed.act fun s =>
      let (f, script) := s.script.next c.name
      (f, { s with script := script })
    let forward := (d.call c).zoom Scripted.store fun t s => { s with store := t }
    match fault with
    | none => forward
    | some f => disturbed c f forward

end Scripted

end KvBridge
