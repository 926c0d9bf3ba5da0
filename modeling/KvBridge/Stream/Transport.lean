import KvBridge.Event
import KvBridge.Time.Duration

/-!
# Transports

A transport takes a request to the ingestion service and brings back what it answers.

* `Transport`: the operation;
* `Transport.scripted`: a transport that answers from a list of replies.
-/

namespace KvBridge.Stream

/-- A transport on states `τ`. -/
structure Transport (τ : Type) where
  post : Request → Program τ (Except Cause Response)

/-- How a post is answered: late, never, by a failure, or by a response. -/
structure Reply where
  delay : Option Duration := none
  hang : Bool := false
  fail : Option String := none
  response : Response := ⟨200, Utf8.encode "\x7b\"status_code\":0\x7d"⟩

/-- Answers a post. -/
def Reply.answer {τ : Type} (r : Reply) : Program τ (Except Cause Response) := do
  if let some d := r.delay then Timed.pause d.timerMillis
  if r.hang then Timed.never
  else
    match r.fail with
    | some words => return .error (.text words)
    | none => return .ok r.response

/-- The transport that answers each post by the next reply, and by success when none is left. -/
def Transport.scripted : Transport (List Reply) where
  post request := do
    Timed.tell (.post request)
    let reply ← Timed.act fun replies =>
      match replies with
      | [] => ({}, [])
      | r :: rs => (r, rs)
    reply.answer

end KvBridge.Stream
