import KvBridge.Proofs.Json.Written
import KvBridge.Proofs.Text.Base64
import KvBridge.Token

/-!
# A token is read back from its text

The text of a token has three parts with points between them, each of them bytes in base 64: the
form of the token, what it states, and the signature. What it states is the text of a JSON object.
Whoever receives a token reads off it what was stated (`Token.read?_render`), so what a signer
vouches for can be said of the text that is sent (`Signer.vouches_of_mint`).

* `Claims.ofJson?`, `Token.read?`: reading a token;
* `Signer.Vouches`: what a text says that is a token of a signer, made at a reading of the clock.
-/

namespace KvBridge

open Json (Doc Numeral)

/-! ## What is stated -/

namespace Claims

/-- What a JSON object states that has these four members. -/
def ofJson? (v : Json) : Option Claims :=
  match v.member? "iss", v.member? "sub", v.member? "iat", v.member? "exp" with
  | some (.text issuer), some (.text subject), some (.number (.whole (.ofNat issuedAt))),
      some (.number (.whole (.ofNat expiresAt))) => some ⟨issuer, subject, issuedAt, expiresAt⟩
  | _, _, _, _ => none

/-- The JSON object that says what is stated. -/
def toJson (c : Claims) : Json :=
  .ofMembers [("iss", .text c.issuer), ("sub", .text c.subject), ("iat", .ofInt c.issuedAt),
    ("exp", .ofInt c.expiresAt)]

theorem ofJson?_toJson (c : Claims) : ofJson? c.toJson = some c := by
  simp only [ofJson?, toJson, Json.member?_ofMembers]
  rfl

/-- The object as a document. -/
def document (c : Claims) : Doc :=
  .object [.named (.ok "iss") (.text (.ok c.issuer)), .named (.ok "sub") (.text (.ok c.subject)),
    .named (.ok "iat") (.number (.ofInt c.issuedAt)),
    .named (.ok "exp") (.number (.ofInt c.expiresAt))] none

theorem encode_render (c : Claims) : Utf8.encode c.render = c.document.written := by
  have commas (a b c d : String) :
      Json.commas [a, b, c, d] = a ++ "," ++ b ++ "," ++ c ++ "," ++ d := rfl
  have marks : Utf8.encode "\x7b" = [0x7B] ∧ Utf8.encode "," = [0x2C] ∧
      Utf8.encode "\x7d" = [0x7D] := by decide +kernel
  have names : Utf8.encode "\"iss\":" = Json.writtenText "iss" ++ [0x3A] ∧
      Utf8.encode "\"sub\":" = Json.writtenText "sub" ++ [0x3A] ∧
      Utf8.encode "\"iat\":" = Json.writtenText "iat" ++ [0x3A] ∧
      Utf8.encode "\"exp\":" = Json.writtenText "exp" ++ [0x3A] := by decide +kernel
  simp only [render, commas, Utf8.encode_append, marks, names, document, Doc.written,
    Json.Member.written, Json.writtenMembers, Json.writtenLiteral, Json.writtenText,
    Numeral.written_ofInt_natCast, List.append_assoc, List.cons_append, List.nil_append]

theorem isWhole_document (c : Claims) : c.document.isWhole := by
  simp only [document, Doc.isWhole, Json.areWholeMembers, Json.Member.isWhole,
    Numeral.isSpelt_ofInt]
  rfl

/-- The text of a statement is read as the object that says it, as long as its numbers have room in
64 bits with a sign. -/
theorem parse_render {c : Claims} (issuedAt : c.issuedAt < 0x8000000000000000)
    (expiresAt : c.expiresAt < 0x8000000000000000) :
    Json.parse (Utf8.encode c.render) = .ok c.toJson := by
  have number {n : Nat} (h : n < 0x8000000000000000) :
      (Numeral.ofInt n).read = .ok (.whole n) := by
    rw [Numeral.read, Numeral.number?_ofInt (by omega) (by omega)]
  rw [encode_render, Json.parse, Json.parseWithin, Json.readDoc_written c.isWhole_document]
  simp only [document, Json.maxDepth, Doc.valueWithin, Json.embedded?, Json.memberValues,
    Json.Member.valueWithin, number issuedAt, number expiresAt, Json.reading, Except.mapError]
  rfl

end Claims

/-! ## Tokens -/

namespace Token

/-- The token that a text is, if its three parts are the usual form, a statement and a
signature. -/
def read? (text : String) : Option Token := do
  match ← (text.toList.splitOn '.').mapM Base64.decodeUrl? with
  | [form, statement, signature] =>
    if form = Utf8.encode header then
      let claims ← Claims.ofJson? (← (Json.parse statement).toOption)
      return ⟨claims, signature⟩
    else none
  | _ => none

/-- There are no points in a token but the two between its parts. -/
theorem splitOn_render (t : Token) : t.render.toList.splitOn '.' =
    [(Base64.encodeUrl (Utf8.encode header)).toList,
      (Base64.encodeUrl (Utf8.encode t.claims.render)).toList,
      (Base64.encodeUrl t.signature).toList] := by
  have joined : t.render.toList = ['.'].intercalate
      [(Base64.encodeUrl (Utf8.encode header)).toList,
        (Base64.encodeUrl (Utf8.encode t.claims.render)).toList,
        (Base64.encodeUrl t.signature).toList] := by simp [render, signedText]
  rw [joined]
  refine List.splitOn_intercalate '.' ?_ (List.cons_ne_nil _ _)
  simp [Base64.dot_notMem_encodeUrl]

/-- What was stated and signed is read off the text of a token. -/
theorem read?_render {t : Token} (issuedAt : t.claims.issuedAt < 0x8000000000000000)
    (expiresAt : t.claims.expiresAt < 0x8000000000000000) : read? t.render = some t := by
  have stated := Claims.parse_render issuedAt expiresAt
  simp [read?, splitOn_render, Base64.decodeUrl?_encodeUrl, stated, Claims.ofJson?_toJson,
    Except.toOption]

end Token

/-! ## What a signer vouches for -/

/-- The text is a token that the signer made at a reading of the clock: it says so in whole seconds,
holds for a minute from then on, and its times have room in 64 bits. All that stands before the
signature is signed. -/
structure Signer.Vouches (s : Signer) (now : Reading) (text : String) (t : Token) : Prop where
  read : Token.read? text = some t
  issuer : t.claims.issuer = s.issuer
  subject : t.claims.subject = s.subject
  issuedAt : t.claims.issuedAt = now.toNat / 1000
  expiresAt : t.claims.expiresAt = t.claims.issuedAt + 60
  fits : t.claims.expiresAt < UInt64.size
  holds : t.claims.issuedAt * 1000 ≤ now.toNat ∧ now.toNat < t.claims.expiresAt * 1000
  signed : ∃ signedText, text = signedText ++ "." ++ Base64.encodeUrl t.signature ∧
    s.sign (Utf8.encode signedText) = .ok t.signature

theorem Signer.vouches_of_mint {s : Signer} {now : Reading} {t : Token} (h : s.mint now = .ok t) :
    s.Vouches now t.render t := by
  rw [mint] at h
  split at h
  · rename_i signature hs
    cases h
    have hlt := now.toNat_lt_size
    have hsize : UInt64.size = 18446744073709551616 := rfl
    have hissued : now.toNat / 1000 < 0x8000000000000000 := by omega
    have hexpires : now.toNat / 1000 + 60 < 0x8000000000000000 := by omega
    refine ⟨Token.read?_render hissued hexpires, rfl, rfl, rfl, rfl, ?_, ⟨?_, ?_⟩, _, rfl, hs⟩
    · show now.toNat / 1000 + 60 < UInt64.size
      omega
    · show now.toNat / 1000 * 1000 ≤ now.toNat
      omega
    · show now.toNat < (now.toNat / 1000 + 60) * 1000
      omega
  · cases h

end KvBridge
