import KvBridge.Failure
import KvBridge.Key.Encrypted
import KvBridge.Key.Pem
import KvBridge.Key.Signature

/-!
# Files with private keys

A file holds a key of two primes as a block of one of three names: the numbers alone, the numbers
with the algorithm that they are for, or the latter encrypted under a passphrase. The names that
the text holds anywhere decide how it is read.

* `Rsa.PrivateKey.ofText`: the key in a text;
* `Rsa.PrivateKey.load`: the key in a file;
* `Rsa.SigningKey.ofPrivate`: the key as it is used to sign;
* `KeyFault.failure`: what a caller is told of a key that cannot be used.
-/

namespace KvBridge

/-- Why a file cannot be read. -/
inductive FileFault
  | missing
  | directory
  | notText
deriving DecidableEq, Repr

def FileFault.message : FileFault → String
  | .missing => "No such file or directory (os error 2)"
  | .directory => "Is a directory (os error 21)"
  | .notText => "stream did not contain valid UTF-8"

/-- What is wrong with a block. -/
inductive KeyDefect
  | frame
  | passphrase
  | content
deriving DecidableEq, Repr

def KeyDefect.message : KeyDefect → String
  | .frame => "not one block of the expected name"
  | .passphrase => "unknown encryption or wrong passphrase"
  | .content => "not the numbers of a key"

/-- Why a private key cannot be used. -/
inductive KeyFault
  | unreadable (path : String) (why : FileFault)
  | noPassphrase
  | encrypted (why : KeyDefect)
  | numbers (why : KeyDefect)
  | info (why : KeyDefect)
  /-- The key is read, and cannot be used to sign. -/
  | unwritable
deriving DecidableEq, Repr

namespace KeyFault

/-- The words for a key that cannot be used. -/
def message : KeyFault → String
  | .unreadable path why => "failed to read private key " ++ path ++ ": " ++ why.message
  | .noPassphrase => "failed to read private key: private key requires a passphrase, " ++
    "but private_key_pass was not supplied"
  | .encrypted why => "failed to read private key: failed to decrypt private key: " ++ why.message
  | .numbers why => "failed to read private key: invalid PKCS#1 key: " ++ why.message
  | .info why => "failed to read private key: invalid PKCS#8 key: " ++ why.message
  | .unwritable => "failed to encode private key: PKCS#8 cryptographic key data malformed"

/-- What a caller is told. -/
def failure (f : KeyFault) : Failure := .invalidConfiguration f.message

end KeyFault

namespace Rsa.PrivateKey

/-! ## Numbers with their algorithm -/

/-- The number that an element has in place of a tag. -/
def number? (e : Der) : Option UInt8 :=
  if e.tag &&& 0xC0 = 0x80 then some (e.tag &&& 0x1F) else none

/-- Whether an element has a number in place of a tag and holds one element. -/
def isWrapped (e : Der) : Bool := e.tag &&& 0xE0 == 0xA0 && (Der.one? e.content).isSome

/-- Whether an element is whole bits under the number of the public half. -/
def isPublicHalf (e : Der) : Bool := e.tag == 0x81 && e.content.head? == some 0

/-- Whether what follows the numbers is in order, for a document of a version: attributes, the
public half in version one and only there, and extensions. -/
def checkRest (version : Nat) (rest : List Der) : Bool :=
  match rest.dropWhile fun e => number? e == some 0 with
  | [] => version == 0
  | e :: more =>
    if number? e = some 1 then version == 1 && isPublicHalf e && more.all isWrapped
    else version == 0 && isWrapped e && more.all isWrapped

/-- The key of a document of a version, an algorithm, the numbers as bytes, and more. -/
def ofInfo? (e : Der) : Option PrivateKey := do
  match ← e.members? with
  | version :: algorithm :: numbers :: rest =>
    let numbers ← numbers.octets?
    if algorithm = PrivateKey.algorithm ∧ checkRest (← version.nat?) rest then
      ofDer? (← Der.one? numbers)
    else none
  | _ => none

/-! ## Texts -/

/-- Whether a text holds another one. -/
def holds (part : Bytes) : Bytes → Bool
  | [] => part.isEmpty
  | b :: bs => part.isPrefixOf (b :: bs) || holds part bs

/-- Whether a text holds the line that starts a block of a name. -/
def starts (label : String) (text : Bytes) : Bool :=
  holds (Utf8.encode ("-----BEGIN " ++ label ++ "-----")) text

/-- The element that is the block of a name, and the key that is made of it. -/
def ofBlock (label : String) (text : Bytes) (make : Der → Except KeyDefect PrivateKey) :
    Except KeyDefect PrivateKey :=
  match (Pem.decode? label text).bind Der.one? with
  | none => .error .frame
  | some e => make e

/-- A key, if the content of a block makes one. -/
def require : Option PrivateKey → Except KeyDefect PrivateKey
  | none => .error .content
  | some k => .ok k

/-- The key of an encrypted document. -/
def ofEncrypted (passphrase : Bytes) (e : Der) : Except KeyDefect PrivateKey :=
  match (Encrypted.ofDer? e).bind (·.decrypt? passphrase) with
  | none => .error .passphrase
  | some bs => require ((Der.one? bs).bind ofInfo?)

/-- The key in a text. An empty passphrase counts as none. -/
def ofText (text : Bytes) (passphrase : Option String) : Except KeyFault PrivateKey :=
  if starts "ENCRYPTED PRIVATE KEY" text then
    match passphrase.filter (· ≠ "") with
    | none => .error .noPassphrase
    | some p =>
      (ofBlock "ENCRYPTED PRIVATE KEY" text (ofEncrypted (Utf8.encode p))).mapError .encrypted
  else if starts "RSA PRIVATE KEY" text then
    (ofBlock "RSA PRIVATE KEY" text fun e => require (ofDer? e)).mapError .numbers
  else (ofBlock "PRIVATE KEY" text fun e => require (ofInfo? e)).mapError .info

/-- The key in a file, of which the path and the content are given. -/
def load (path : String) (file : Except FileFault Bytes) (passphrase : Option String) :
    Except KeyFault PrivateKey :=
  match file with
  | .error why => .error (.unreadable path why)
  | .ok text =>
    match Utf8.decode? text with
    | none => .error (.unreadable path .notText)
    | some _ => ofText text passphrase

end Rsa.PrivateKey

/-- A private key as it is used to sign. -/
def Rsa.SigningKey.ofPrivate (k : Rsa.PrivateKey) : Except KeyFault Rsa.SigningKey :=
  match ofPrivate? k with
  | some k => .ok k
  | none => .error .unwritable

end KvBridge
