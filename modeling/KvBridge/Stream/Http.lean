import KvBridge.Stream.Transport

/-!
# Requests on the wire

A request is sent by the POST method with four headers: both sides speak JSON, the token is a
bearer token, and it was made with a pair of keys. A token that no header can hold is not sent.

* `Http.ofPost?`: what is sent;
* `Http.transport`: the transport to a server.
-/

namespace KvBridge.Stream

/-- What is sent to a server. -/
structure Http where
  method : String
  url : String
  headers : List (String × String)
  body : Bytes
deriving DecidableEq, Repr

namespace Http

/-- Whether a text can stand in a header: it has no control characters but the tabulator. -/
def isHeaderValue (s : String) : Bool :=
  s.toList.all fun c => c = '\t' || (' ' ≤ c && c ≠ '\x7f')

/-- The headers of every request, in the order of their names. -/
def postHeaders (token : String) : List (String × String) := [
  ("accept", "application/json"),
  ("authorization", "Bearer " ++ token),
  ("content-type", "application/json"),
  ("x-snowflake-authorization-token-type", "KEYPAIR_JWT")]

/-- What is sent to take a JSON value to an address. -/
def ofPost? (url token : String) (body : Json) : Option Http :=
  if isHeaderValue token then some ⟨"POST", url, postHeaders token, Utf8.encode body.render⟩
  else none

/-- Takes a JSON value to an address of a server. -/
def post {τ : Type} (server : Http → Program τ (Except Cause Response)) (url token : String)
    (body : Json) : Program τ (Except Cause Response) :=
  match ofPost? url token body with
  | none => return .error (.text "builder error")
  | some h => server h

/-- The transport to a server. -/
def transport {τ : Type} (server : Http → Program τ (Except Cause Response)) : Transport τ where
  post r := Http.post server r.url r.token r.body

/-- A server that cannot be reached. -/
def unreachable {τ : Type} (_ : Http) : Program τ (Except Cause Response) :=
  return .error (.text "error sending request")

end Http

end KvBridge.Stream
