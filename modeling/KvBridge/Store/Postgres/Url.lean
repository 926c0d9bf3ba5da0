import KvBridge.Store.Postgres.Host
import KvBridge.Store.Postgres.Server

/-!
# Addresses of databases

An address names a scheme, perhaps a user, a password, a host and the number of a service, a path,
which names the database, and settings. What follows a number sign is no part of it. Where the
scheme always names a domain, and for files, a backslash counts as a slash.

* `Address.parse?`: an address, unless its text is none.
-/

namespace KvBridge.Postgres

/-- The parts of an address that matter here. The host is kept as it is spelled. -/
structure Address where
  user : String
  password : Option String
  host : String
  database : String
  settings : List (String × String)
deriving DecidableEq, Repr

namespace Address

/-- A part of an address as text. -/
def part? (cs : List Char) : Option String := Utf8.decode? (Text.percentDecode cs)

/-- A name or value among the settings, where a plus sign stands for a space. -/
def settingPart (cs : List Char) : String :=
  Utf8.decodeLossy (Text.percentDecode (cs.map fun c => if c = '+' then ' ' else c))

/-- The scheme and what follows its colon. -/
def scheme? (cs : List Char) : Option (String × List Char) :=
  match Text.cut? (· == ':') cs with
  | some (c :: name, rest) =>
    if c.isAlpha && name.all fun c => c.isAlphanum || c == '+' || c == '-' || c == '.' then
      some (String.ofList ((c :: name).map Char.toLower), rest)
    else none
  | _ => none

/-- The kinds of schemes: files, those that always name a domain, and all others. -/
inductive Kind
  | file
  | web
  | free
deriving DecidableEq, Repr

/-- The schemes that always name a domain. -/
def webSchemes : List String := ["http", "https", "ws", "wss", "ftp"]

def Kind.ofScheme (scheme : String) : Kind :=
  if scheme = "file" then .file
  else if webSchemes.contains scheme then .web
  else .free

/-! ## Users and hosts -/

/-- Cuts before the first colon outside of brackets. -/
def cutHost (inside : Bool) : List Char → List Char × List Char
  | [] => ([], [])
  | c :: cs =>
    if c = ':' ∧ ¬ inside then ([], c :: cs)
    else
      let (host, rest) := cutHost (c == '[' || (inside && c != ']')) cs
      (c :: host, rest)

/-- Whether a text is the number of a service: digits that stay below 2¹⁶. -/
def isNumber (cs : List Char) : Bool := (Host.number? 10 cs).any (· < UInt16.size)

/-- What follows the number of a service, which may be missing. Only a backslash may follow. -/
def afterNumber? : List Char → Option (List Char)
  | [] => some []
  | _ :: cs =>
    let rest := cs.dropWhile Char.isDigit
    if isNumber (cs.takeWhile Char.isDigit) ∧ (rest.isEmpty ∨ rest.head? = some '\\') then
      some rest
    else none

/-- A user and a password. An empty password is none. -/
def credentials? (cs : List Char) : Option (String × Option String) := do
  let (user, password) := (Text.cut? (· == ':') cs).getD (cs, [])
  if password.isEmpty then return (← part? user, none)
  return (← part? user, some (← part? password))

/-- Whether a host is in order. One that turns out to be a path must be a text. -/
def isHost (kind : Kind) (cs : List Char) : Bool :=
  match kind with
  | .free =>
    let bs := Text.percentDecode cs
    Host.isFree cs && (bs.head? != some '/'.toUInt8 || (Utf8.decode? bs).isSome)
  | .file | .web => Host.isDomain cs

/-- User, password, host, and what belongs to the path. A user, a password or a number needs a
host, and so do some schemes. -/
def authority? (kind : Kind) (cs : List Char) :
    Option (String × Option String × String × List Char) := do
  let guest? := Text.cutLast? (· == '@') cs
  let (info, rest) := guest?.getD ([], cs)
  let (host, number) := cutHost false rest
  let path ← afterNumber? number
  let needed := kind == .web || !number.isEmpty || (guest?.isSome && info != [':'])
  if host.isEmpty then if needed then failure
  else unless isHost kind host do failure
  let (user, password) ← credentials? info
  return (user, password, String.ofList host, path)

/-! ## Paths -/

/-- Whether a step of a path stays where it is. -/
def isHere (step : List Char) : Bool :=
  [".", "%2e"].contains (String.ofList (step.map Char.toLower))

/-- Whether a step of a path goes back. -/
def isBack (step : List Char) : Bool :=
  ["..", ".%2e", "%2e.", "%2e%2e"].contains (String.ofList (step.map Char.toLower))

/-- Walks the steps of a path. `taken` are the steps so far, the last one first. -/
def walk : (steps taken : List (List Char)) → List (List Char)
  | [], taken => taken.reverse
  | step :: steps, taken =>
    let taken :=
      if isBack step then taken.tail
      else if isHere step then taken
      else step :: taken
    walk steps (if steps.isEmpty ∧ (isBack step ∨ isHere step) then [] :: taken else taken)

/-- A path without steps that go back or stay. -/
def walked (path : List Char) : List Char :=
  match path with
  | '/' :: path => '/' :: ['/'].intercalate (walk (Text.splitAll '/' path) [])
  | path => path

/-- The database that a path names. -/
def database? (path : List Char) : Option String := part? (path.dropWhile (· == '/'))

/-! ## Settings -/

/-- The settings of an address. -/
def readSettings (cs : List Char) : List (String × String) :=
  ((Text.splitAll '&' cs).filter (!·.isEmpty)).map fun s =>
    let (name, value) := (Text.cut? (· == '=') s).getD (s, [])
    (settingPart name, settingPart value)

/-- The ways to secure a connection. -/
def sslModes : List String :=
  ["disable", "allow", "prefer", "require", "verify-ca", "verify-full"]

/-- Whether a text is a whole number up to a bound. A plus sign may stand before it. -/
def isCount (bound : Nat) (s : String) : Bool :=
  let digits := match s.toList with
    | '+' :: cs => cs
    | cs => cs
  !digits.isEmpty && (Host.number? 10 digits).any (· ≤ bound)

/-- Whether a setting has a value of its kind. Settings of other names are not looked at. -/
def isSetting (s : String × String) : Bool :=
  match s with
  | ("sslmode", v) | ("ssl-mode", v) =>
    sslModes.contains (String.ofList (v.toList.map Char.toLower))
  | ("port", v) => isCount 0xFFFF v
  | ("statement-cache-capacity", v) => isCount 0xFFFFFFFFFFFFFFFF v
  | ("hostaddr", v) => Host.isStrict4 v.toList || Host.isStrict6 v.toList
  | _ => true

/-! ## Addresses -/

/-- Blanks at the ends do not count, and neither do tabs and line ends anywhere. -/
def strip (cs : List Char) : List Char :=
  let trim (cs : List Char) := cs.dropWhile (·.toNat ≤ 0x20)
  (trim (trim cs).reverse).reverse.filter fun c => c != '\t' && c != '\n' && c != '\r'

/-- Whether a text is the letter of a drive. -/
def isDrive (cs : List Char) : Bool :=
  match cs with
  | [letter, mark] => letter.isAlpha && (mark == ':' || mark == '|')
  | _ => false

/-- User, password, host and path of what follows the scheme. -/
def parts? (kind : Kind) (cs : List Char) : Option (String × Option String × String × List Char) :=
  let plain := cs.map fun c => if c = '\\' then '/' else c
  let ofAuthority (cs : List Char) := do
    let (user, password, host, path) ← authority? kind (cs.takeWhile (· != '/'))
    let path := (if path.isEmpty then [] else '/' :: path) ++ cs.dropWhile (· != '/')
    return (user, password, host, walked path)
  match kind, cs, plain with
  | .web, _, cs => ofAuthority (cs.dropWhile (· == '/'))
  | .file, _, '/' :: '/' :: cs =>
    let host := cs.takeWhile (· != '/')
    if host.isEmpty ∨ isDrive host then some ("", none, "", walked ('/' :: cs))
    else if Host.isDomain host then
      some ("", none, String.ofList host, walked (cs.dropWhile (· != '/')))
    else none
  | .file, _, cs => some ("", none, "", walked ('/' :: cs))
  | .free, '/' :: '/' :: cs, _ => ofAuthority cs
  | .free, cs, _ => some ("", none, "", walked cs)

/-- An address. -/
def parse? (s : String) : Option Address := do
  let (scheme, rest) ← scheme? (strip s.toList)
  let rest := rest.takeWhile (· != '#')
  let (rest, query) := (Text.cut? (· == '?') rest).getD (rest, [])
  let (user, password, host, path) ← parts? (.ofScheme scheme) rest
  let settings := readSettings query
  if settings.all isSetting then
    return ⟨user, password, host, ← database? path, settings⟩
  else none

/-- How a client presents itself at an address. A user or password that is given wins over the
address. -/
def login (a : Address) (user password : Option String) : Login :=
  ⟨user.or (if a.user.isEmpty then none else some a.user), password.or a.password, a.database⟩

end Address

end KvBridge.Postgres
