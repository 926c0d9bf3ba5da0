import KvBridge.Json.Value
import KvBridge.Key.Private
import KvBridge.Text.UpperCase
import KvBridge.Time.Clock

/-!
# Signed tokens

A token states who sends a request and for how long the statement holds. It is made anew for every
request and signed with a private key, so that the service can check it against the public half.

* `Claims.render`, `Token.render`: the texts;
* `Signer.mint`: a token at a reading of the clock;
* `Signer.ofKey`: the signer of a user with a key, if the key can be used to sign.
-/

namespace KvBridge

/-- What a token states: who made it, for whom, and from when to when it holds, in seconds. -/
structure Claims where
  issuer : String
  subject : String
  issuedAt : Nat
  expiresAt : Nat
deriving DecidableEq, Repr

/-- The statement as a JSON object, whose members keep this order. -/
def Claims.render (c : Claims) : String :=
  "\x7b" ++ Json.commas [
    "\"iss\":" ++ Json.renderText c.issuer,
    "\"sub\":" ++ Json.renderText c.subject,
    "\"iat\":" ++ toString c.issuedAt,
    "\"exp\":" ++ toString c.expiresAt] ++ "\x7d"

/-- A statement and its signature. -/
structure Token where
  claims : Claims
  signature : Bytes
deriving DecidableEq, Repr

namespace Token

/-- What every token says of its form. -/
def header : String := "\x7b\"typ\":\"JWT\",\"alg\":\"RS256\"\x7d"

/-- The seconds for which a token holds. -/
def lifetime : Nat := 60

/-- The text that is signed. -/
def signedText (c : Claims) : String :=
  Base64.encodeUrl (Utf8.encode header) ++ "." ++ Base64.encodeUrl (Utf8.encode c.render)

/-- The text of a token. -/
def render (t : Token) : String := signedText t.claims ++ "." ++ Base64.encodeUrl t.signature

end Token

/-- Someone who makes tokens. -/
structure Signer where
  issuer : String
  subject : String
  sign : Bytes → Except Cause Bytes

namespace Signer

/-- The signer of a user with a key. The subject is in upper case, and the issuer is the subject
with the fingerprint of the key. -/
def ofKey (account user : String) (key : Rsa.PrivateKey) : Except KeyFault Signer := do
  let subject := Text.upperCase (account ++ "." ++ user)
  let signing ← Rsa.SigningKey.ofPrivate key
  return { issuer := subject ++ "." ++ key.fingerprint
           subject
           sign := fun bs => (signing.sign bs).mapError fun unfit => .text unfit.message }

variable (s : Signer)

/-- What a token states that is made at a reading of the clock. -/
def claims (now : Reading) : Claims :=
  let seconds := now.toNat / 1000
  ⟨s.issuer, s.subject, seconds, seconds + Token.lifetime⟩

/-- A token at a reading of the clock. -/
def mint (now : Reading) : Except Failure Token :=
  let claims := s.claims now
  match s.sign (Utf8.encode (Token.signedText claims)) with
  | .ok signature => .ok ⟨claims, signature⟩
  | .error cause => .error (.transport "sign_token" none cause)

/-- A signer as text, without its key. -/
def render : String := "TokenSigner \x7b issuer: " ++ Text.quoted s.issuer ++ ", .. \x7d"

end Signer

end KvBridge
