import KvBridge.Proofs.Store.Postgres.Refinement
import Mathlib.Computability.RegularExpressions
import Mathlib.Data.List.Forall2

/-!
# What a statement says

The text of a statement is one of a few templates with the name of the table in its gaps. What a
caller hands over travels beside it, as parameters. Two runs of commands that are of the same kinds
one by one (`Command.Alike`) send the same texts to a server that answers them alike, whatever the
keys and values are and whatever the clocks read: `Postgres.Lockstep` relates the programs of the
two runs step by step.

The name of a table cannot say more than a name does, for only identifiers are accepted
(`Postgres.checkTable_eq_ok_iff`).

* `Postgres.identifier`, `Postgres.templates`: the names and the texts;
* `Postgres.lockstep_call`: two commands of one kind take the same steps;
* `Postgres.told_of_alike`, `Postgres.sql_carries_no_data`: so do two runs.
-/

namespace KvBridge

/-! ## Names of tables -/

namespace Postgres

/-- The characters from one to another. -/
def between (a b : Char) : List Char :=
  (List.range' a.toNat (b.toNat + 1 - a.toNat)).map Char.ofNat

/-- Any one of some characters. -/
def oneOf (cs : List Char) : RegularExpression Char := (cs.map .char).sum

/-- The names of tables: `[A-Za-z_][A-Za-z0-9_]*`. -/
def identifier : RegularExpression Char :=
  oneOf (between 'A' 'Z' ++ between 'a' 'z' ++ ['_']) *
    .star (oneOf (between 'A' 'Z' ++ between 'a' 'z' ++ between '0' '9' ++ ['_']))

/-- There are no gaps among the characters up to the surrogates. -/
theorem mem_between {a b c : Char} (hb : b.toNat < 0xD800) :
    c ∈ between a b ↔ a.toNat ≤ c.toNat ∧ c.toNat ≤ b.toNat := by
  simp only [between, List.mem_map, List.mem_range'_1]
  constructor
  · rintro ⟨n, hn, rfl⟩
    have hv : n.isValidChar := .inl (by omega)
    have hn' : (Char.ofNat n).toNat = n := by
      rw [Char.ofNat, dif_pos hv]
      rfl
    omega
  · intro hc
    exact ⟨c.toNat, by omega, Char.ofNat_toNat c⟩

theorem mem_matches_oneOf {cs w : List Char} : w ∈ (oneOf cs).matches' ↔ ∃ c ∈ cs, w = [c] := by
  induction cs with
  | nil => simp [oneOf]
  | cons c cs ih =>
    have hsum : oneOf (c :: cs) = .char c + oneOf cs := rfl
    rw [hsum, RegularExpression.matches'_add, Language.mem_add, ih, RegularExpression.matches'_char]
    simp only [List.mem_cons, exists_eq_or_imp]
    rfl

/-- The words that are made of some characters. -/
theorem mem_matches_star_oneOf {cs w : List Char} :
    w ∈ (RegularExpression.star (oneOf cs)).matches' ↔ ∀ c ∈ w, c ∈ cs := by
  rw [RegularExpression.matches'_star, Language.mem_kstar]
  constructor
  · rintro ⟨ws, rfl, hws⟩ c hc
    obtain ⟨v, hv, hc⟩ := List.mem_flatten.1 hc
    obtain ⟨d, hd, rfl⟩ := mem_matches_oneOf.1 (hws v hv)
    exact List.mem_singleton.1 hc ▸ hd
  · intro hw
    refine ⟨w.map ([·]), by simp [← List.flatMap_def], ?_⟩
    rintro _ hv
    obtain ⟨c, hc, rfl⟩ := List.mem_map.1 hv
    exact mem_matches_oneOf.2 ⟨c, hw c hc, rfl⟩

/-- What may stand in a name. -/
theorem mem_nameChars {c : Char} :
    c ∈ between 'A' 'Z' ++ between 'a' 'z' ++ between '0' '9' ++ ['_'] ↔ isNameChar c = true := by
  have upper : c.isUpper = true ↔ 'A'.toNat ≤ c.toNat ∧ c.toNat ≤ 'Z'.toNat := decide_eq_true_iff
  have lower : c.isLower = true ↔ 'a'.toNat ≤ c.toNat ∧ c.toNat ≤ 'z'.toNat :=
    Bool.and_eq_true_iff.trans (and_congr decide_eq_true_iff decide_eq_true_iff)
  have digit : c.isDigit = true ↔ '0'.toNat ≤ c.toNat ∧ c.toNat ≤ '9'.toNat :=
    Bool.and_eq_true_iff.trans (and_congr decide_eq_true_iff decide_eq_true_iff)
  have alphanum : c.isAlphanum = (c.isUpper || c.isLower || c.isDigit) := rfl
  simp only [List.mem_append, mem_between (b := 'Z') (by decide),
    mem_between (b := 'z') (by decide), mem_between (b := '9') (by decide), List.mem_singleton,
    isNameChar, alphanum, Bool.or_eq_true, upper, lower, digit, beq_iff_eq]

/-- What may stand first in a name. -/
theorem mem_firstChars {c : Char} : c ∈ between 'A' 'Z' ++ between 'a' 'z' ++ ['_'] ↔
    c.isDigit = false ∧ isNameChar c = true := by
  have digit : c.isDigit = true ↔ 48 ≤ c.toNat ∧ c.toNat ≤ 57 := by
    simp only [Char.isDigit, Bool.and_eq_true, decide_eq_true_eq]
    rfl
  have underscore : c = '_' → c.toNat = 95 := by
    rintro rfl
    rfl
  rw [← mem_nameChars, ← Bool.not_eq_true, digit]
  simp only [List.mem_append, mem_between (b := 'Z') (by decide),
    mem_between (b := 'z') (by decide), mem_between (b := '9') (by decide), List.mem_singleton,
    Char.reduceToNat]
  grind

/-- Exactly the identifiers are accepted as names of tables. -/
theorem isTableName_iff_mem_matches (s : String) :
    isTableName s = true ↔ s.toList ∈ identifier.matches' := by
  rw [isTableName, identifier, RegularExpression.matches'_mul, Language.mem_mul]
  cases s.toList with
  | nil =>
    refine iff_of_false nofun ?_
    rintro ⟨v, hv, w, -, hvw⟩
    obtain ⟨c, -, rfl⟩ := mem_matches_oneOf.1 hv
    cases hvw
  | cons c cs =>
    simp only [List.all_cons, Bool.and_eq_true, Bool.not_eq_true', List.all_eq_true,
      ← mem_nameChars, ← mem_matches_star_oneOf]
    constructor
    · rintro ⟨hd, hc, hcs⟩
      have first := mem_firstChars.2 ⟨hd, mem_nameChars.1 hc⟩
      exact ⟨[c], mem_matches_oneOf.2 ⟨c, first, rfl⟩, cs, hcs, rfl⟩
    · rintro ⟨v, hv, w, hw, hvw⟩
      obtain ⟨d, hd, rfl⟩ := mem_matches_oneOf.1 hv
      cases hvw
      obtain ⟨hd, hc⟩ := mem_firstChars.1 hd
      exact ⟨hd, mem_nameChars.2 hc, hw⟩

/-- A client is made exactly for the identifiers. -/
theorem checkTable_eq_ok_iff (config : PostgresConfig) :
    checkTable config = .ok () ↔ config.table.toList ∈ identifier.matches' := by
  rw [← isTableName_iff_mem_matches, checkTable]
  split <;> simp [*]

/-! ## Texts of statements -/

/-- A text with gaps for the name of a table. -/
abbrev Template := List (Option String)

/-- The text with a name in each gap. -/
def Template.fill (table : String) : Template → String
  | [] => ""
  | some text :: pieces => text ++ fill table pieces
  | none :: pieces => table ++ fill table pieces

/-- The shapes of statements. -/
inductive Shape
  | createTable
  | ping
  | upsert
  | select
  | insertUnlessLive
  | updateIfLive
  | delete
  | selectMany
  | upsertMany
  | deleteMany

/-- All that is ever said to a database. -/
def Shape.template : Shape → Template
  | .createTable => [some "CREATE TABLE IF NOT EXISTS ", none,
      some " (key BYTEA PRIMARY KEY, value BYTEA NOT NULL, expires_at BIGINT)"]
  | .ping => [some "SELECT 1"]
  | .upsert => [some "INSERT INTO ", none,
      some " (key, value, expires_at) VALUES ($1, $2, $3) ", some Query.overwriting]
  | .select => [some "SELECT value FROM ", none,
      some " WHERE key = $1 AND (expires_at IS NULL OR expires_at > $2)"]
  | .insertUnlessLive => [some "INSERT INTO ", none,
      some " (key, value, expires_at) VALUES ($1, $2, $3) ", some Query.overwriting,
      some " WHERE ", none, some ".expires_at IS NOT NULL AND ", none, some ".expires_at <= $4"]
  | .updateIfLive => [some "UPDATE ", none, some " SET value = $2, expires_at = $3 ",
      some "WHERE key = $1 AND value = $4 AND (expires_at IS NULL OR expires_at > $5)"]
  | .delete => [some "DELETE FROM ", none, some " WHERE key = $1"]
  | .selectMany => [some "SELECT key, value FROM ", none,
      some " WHERE key = ANY($1) AND (expires_at IS NULL OR expires_at > $2)"]
  | .upsertMany => [some "INSERT INTO ", none, some " (key, value, expires_at) ",
      some "SELECT k, v, NULL FROM UNNEST($1::bytea[], $2::bytea[]) AS src(k, v) ",
      some Query.overwriting]
  | .deleteMany => [some "DELETE FROM ", none, some " WHERE key = ANY($1)"]

namespace Query

/-- The shape of a query, which is what is left of it without its parameters. -/
def shape : Query → Shape
  | .createTable => .createTable
  | .ping => .ping
  | .upsert .. => .upsert
  | .select .. => .select
  | .insertUnlessLive .. => .insertUnlessLive
  | .updateIfLive .. => .updateIfLive
  | .delete _ => .delete
  | .selectMany .. => .selectMany
  | .upsertMany .. => .upsertMany
  | .deleteMany _ => .deleteMany

/-- The text of a query is the template of its shape with the name of the table in the gaps. -/
theorem sql_eq_fill (table : String) (q : Query) : q.sql table = q.shape.template.fill table := by
  cases q
  all_goals
    delta sql shape Shape.template
    dsimp only
    simp only [Template.fill, String.append_assoc, String.append_empty]

theorem isSelect_eq_of_shape {q q' : Query} (h : q.shape = q'.shape) :
    q.isSelect = q'.isSelect := by
  cases q <;> cases q' <;> first | rfl | cases h

end Query

end Postgres

/-! ## What is sent -/

/-- The statement that an event tells of. -/
def Event.statement? : Event → Option Statement
  | .statement s => some s
  | _ => none

/-- The statements among events. -/
def statements (es : List Event) : List Statement := es.filterMap Event.statement?

/-- The texts among events. -/
def texts (es : List Event) : List String := (statements es).map Statement.sql

theorem statements_append (es fs : List Event) :
    statements (es ++ fs) = statements es ++ statements fs := List.filterMap_append

theorem texts_append (es fs : List Event) : texts (es ++ fs) = texts es ++ texts fs := by
  rw [texts, statements_append, List.map_append]
  rfl

namespace Command

/-- The keys and values that a command hands over. -/
def data : Command → List Bytes
  | .connect | .ready | .close => []
  | .get key | .delete key => [key]
  | .put key value | .putWithTtl key value _ => [key, value]
  | .compareAndSwap key expected new _ => key :: new :: expected.toList
  | .batchGet keys | .batchDelete keys => keys
  | .batchPut pairs => pairs.flatMap fun p => [p.1, p.2]

/-- The bytes of a parameter are keys and values of the command. -/
def Supplies (c : Command) : Param → Prop
  | .bytes b => b ∈ c.data
  | .byteArray bs => ∀ b ∈ bs, b ∈ c.data
  | .integer _ | .null => True

/-- Two commands are of one kind: what they hand over may differ, but not whether a batch is empty,
nor whether there is to be a value. -/
inductive Alike : Command → Command → Prop
  | connect : Alike .connect .connect
  | ready : Alike .ready .ready
  | close : Alike .close .close
  | get (key key' : Bytes) : Alike (.get key) (.get key')
  | put (key value key' value' : Bytes) : Alike (.put key value) (.put key' value')
  | putWithTtl (key value key' value' : Bytes) (ttl ttl' : Duration) :
    Alike (.putWithTtl key value ttl) (.putWithTtl key' value' ttl')
  | compareAndSwap (key new key' new' : Bytes) (expected expected' : Option Bytes)
    (ttl ttl' : Option Duration) (presence : expected.isSome = expected'.isSome) :
    Alike (.compareAndSwap key expected new ttl) (.compareAndSwap key' expected' new' ttl')
  | delete (key key' : Bytes) : Alike (.delete key) (.delete key')
  | batchGet (keys keys' : List Bytes) (emptiness : keys.isEmpty = keys'.isEmpty) :
    Alike (.batchGet keys) (.batchGet keys')
  | batchPut (pairs pairs' : List (Bytes × Bytes)) (emptiness : pairs.isEmpty = pairs'.isEmpty) :
    Alike (.batchPut pairs) (.batchPut pairs')
  | batchDelete (keys keys' : List Bytes) (emptiness : keys.isEmpty = keys'.isEmpty) :
    Alike (.batchDelete keys) (.batchDelete keys')

theorem Alike.refl (c : Command) : Alike c c := by
  cases c <;> constructor <;> rfl

end Command

namespace Postgres

/-! ## Programs in lockstep -/

/-- What a server answers depends on nothing but the shapes of the queries. -/
def Server.IsBlind {β : Type} (server : Server β) : Prop :=
  ∀ q q' b, q.shape = q'.shape → server.execute q b = server.execute q' b

/-- A server that follows a script is blind. -/
theorem Server.isBlind_scripted : Server.scripted.IsBlind := by
  intro q q' b h
  simp only [scripted, Query.isSelect_eq_of_shape h]

variable {α α' γ γ' β : Type} {server : Server β} {config : PostgresConfig} {P : Statement → Prop}

/-- Two programs succeed with answers that are related, or both fail. -/
inductive EndAlike (R : α → α' → Prop) : Except Cause α → Except Cause α' → Prop
  | ok {a : α} {a' : α'} (related : R a a') : EndAlike R (.ok a) (.ok a')
  | error (e e' : Cause) : EndAlike R (.error e) (.error e')

/-- Whatever their clocks read, two programs take the same steps from one client: they end alike, at
once, leave the client in one state, and send the same texts. The statements of the first one have a
property. -/
def Lockstep (config : PostgresConfig) (P : Statement → Prop) (x : ClientCall β α)
    (y : ClientCall β α') (R : α → α' → Prop) : Prop :=
  ∀ now now' isConnected b, ∃ r r' isConnected' b' es es',
    x.run.Settles ⟨now, config, isConnected, b⟩ r ⟨now, config, isConnected', b'⟩ es ∧
      y.run.Settles ⟨now', config, isConnected, b⟩ r' ⟨now', config, isConnected', b'⟩ es' ∧
      EndAlike R r r' ∧ texts es = texts es' ∧ ∀ s ∈ statements es, P s

namespace Lockstep

variable {x : ClientCall β α} {y : ClientCall β α'} {R : α → α' → Prop} {S : γ → γ' → Prop}

theorem pure {a : α} {a' : α'} (h : R a a') :
    Lockstep config P (Pure.pure a : ClientCall β α) (Pure.pure a') R :=
  fun _ _ c b => ⟨_, _, c, b, [], [], .done _ _, .done _ _, .ok h, rfl, nofun⟩

theorem throw (e e' : Cause) :
    Lockstep config P (MonadExcept.throw e : ClientCall β α) (MonadExcept.throw e') R :=
  fun _ _ c b => ⟨_, _, c, b, [], [], .done _ _, .done _ _, .error e e', rfl, nofun⟩

theorem bind {f : α → ClientCall β γ} {g : α' → ClientCall β γ'} (hx : Lockstep config P x y R)
    (hf : ∀ a a', R a a' → Lockstep config P (f a) (g a') S) :
    Lockstep config P (x >>= f) (y >>= g) S := by
  intro now now' c b
  obtain ⟨r, r', c₁, b₁, es, es', hx, hy, hr, ht, hs⟩ := hx now now' c b
  cases hr with
  | error e e' =>
    refine ⟨_, _, c₁, b₁, es, es', hx.bind_error, hy.bind_error, .error e e', ht, hs⟩
  | ok h =>
    obtain ⟨u, u', c₂, b₂, fs, fs', hf, hg, hu, ht', hs'⟩ := hf _ _ h now now' c₁ b₁
    refine ⟨u, u', c₂, b₂, es ++ fs, es' ++ fs', hx.bind_ok hf, hy.bind_ok hg, hu, ?_, ?_⟩
    · rw [texts_append, texts_append, ht, ht']
    · rw [statements_append]
      exact fun s h => (List.mem_append.1 h).elim (hs s) (hs' s)

/-- A step on the state at one go, which keeps the clock and the settings. -/
theorem act {f : Clocked (Client β) → α × Clocked (Client β)}
    {g : Clocked (Client β) → α' × Clocked (Client β)}
    (h : ∀ now now' c b, ∃ c' b', (f ⟨now, config, c, b⟩).2 = ⟨now, config, c', b'⟩ ∧
      (g ⟨now', config, c, b⟩).2 = ⟨now', config, c', b'⟩ ∧
      R (f ⟨now, config, c, b⟩).1 (g ⟨now', config, c, b⟩).1) :
    Lockstep config P (ExceptT.lift (Timed.act f)) (ExceptT.lift (Timed.act g)) R := by
  intro now now' c b
  obtain ⟨c', b', hf, hg, hr⟩ := h now now' c b
  have hx := (Timed.Settles.act (ε := Event) f ⟨now, config, c, b⟩).lift (θ := Cause)
  have hy := (Timed.Settles.act (ε := Event) g ⟨now', config, c, b⟩).lift (θ := Cause)
  rw [hf] at hx
  rw [hg] at hy
  exact ⟨_, _, c', b', [], [], hx, hy, .ok hr, rfl, nofun⟩

theorem tell {e : Event} (h : e.statement? = none) :
    Lockstep config P (ExceptT.lift (Timed.tell e) : ClientCall β Unit)
      (ExceptT.lift (Timed.tell e)) fun _ _ => True := by
  have hs : statements [e] = [] := by rw [statements, List.filterMap_cons, h]; rfl
  refine fun _ _ c b => ⟨_, _, c, b, [e], [e], .lift (.tell _ _), .lift (.tell _ _), .ok trivial,
    rfl, ?_⟩
  rw [hs]
  exact nofun

/-- The clock is read, and no more than that. -/
theorem read (f : Clocked (Client β) → α) (g : Clocked (Client β) → α') :
    Lockstep config P (ExceptT.lift (Timed.look f)) (ExceptT.lift (Timed.look g))
      fun _ _ => True :=
  act fun _ _ c b => ⟨c, b, rfl, rfl, trivial⟩

theorem connected : Lockstep config P (Postgres.connected : ClientCall β Unit) Postgres.connected
    fun _ _ => True := by
  intro now now' c b
  refine ⟨_, _, c, b, [], [], .look _ _, .look _ _, ?_, rfl, nofun⟩
  cases c with
  | false => exact .error _ _
  | true => exact .ok trivial

/-- Queries of one shape are sent in one text, and get one answer. -/
theorem send (hs : server.IsBlind) {q q' : Query} (hq : q.shape = q'.shape)
    (hp : P (q.statement config.table)) :
    Lockstep config P (Postgres.send server q) (Postgres.send server q') Eq := by
  intro now now' c b
  have h := settles_sent server q now config c b
  have h' := settles_sent server q' now' config c b
  rw [← hs q q' b hq] at h'
  refine ⟨_, _, c, _, _, _, h, h', ?_, ?_, ?_⟩
  · cases (server.execute q b).1 <;> constructor <;> rfl
  · show [q.sql config.table] = [q'.sql config.table]
    rw [q.sql_eq_fill, q'.sql_eq_fill, hq]
  · exact List.forall_mem_singleton.2 hp

theorem ask (hs : server.IsBlind) (q q' : Query) (hq : q.shape = q'.shape)
    (hp : P (q.statement config.table)) :
    Lockstep config P (Postgres.ask server q) (Postgres.ask server q') Eq :=
  connected.bind fun _ _ _ => send hs hq hp

end Lockstep

/-! ## One command -/

/-- A statement asks a query, whose keys and values are those that a command hands over. -/
def IsSent (config : PostgresConfig) (c : Command) (s : Statement) : Prop :=
  ∃ q : Query, s = q.statement config.table ∧ ∀ p ∈ q.params, c.Supplies p

theorem isSent (config : PostgresConfig) {c : Command} {q : Query}
    (h : ∀ p ∈ q.params, c.Supplies p) : IsSent config c (q.statement config.table) := ⟨q, rfl, h⟩

section Supplies

variable (c : Command)

@[simp] theorem supplies_bytes (b : Bytes) : c.Supplies (.bytes b) ↔ b ∈ c.data := .rfl

@[simp] theorem supplies_byteArray (bs : List Bytes) :
    c.Supplies (.byteArray bs) ↔ ∀ b ∈ bs, b ∈ c.data := .rfl

@[simp] theorem supplies_integer (n : Int) : c.Supplies (.integer n) := trivial

@[simp] theorem supplies_moment (m : Option Int) : c.Supplies (Query.moment m) := by
  cases m <;> trivial

end Supplies

section OneCommand

variable (hs : server.IsBlind)

include hs

theorem lockstep_connect (hp : P (Query.createTable.statement config.table)) :
    Lockstep config P (connect server) (connect server) fun _ _ => True := by
  have begun : Lockstep config P (ExceptT.lift (Timed.look fun s => s.store) : ClientCall β _)
      (ExceptT.lift (Timed.look fun s => s.store)) fun s s' => s = s' ∧ s.config = config :=
    .act fun _ _ c b => ⟨c, b, rfl, rfl, rfl, rfl⟩
  refine begun.bind ?_
  rintro ⟨_, c, b⟩ _ ⟨rfl, rfl⟩
  split
  · exact .pure trivial
  split
  · exact .throw _ _
  · refine (Lockstep.act (R := Eq) fun _ _ c b => ⟨c, _, rfl, rfl, rfl⟩).bind fun admitted _ h => ?_
    cases h
    cases admitted with
    | false => exact (Lockstep.throw (R := fun _ _ => False) _ _).bind fun _ _ h => h.elim
    | true =>
      refine (Lockstep.tell rfl).bind fun _ _ _ => (Lockstep.send hs rfl hp).bind fun _ _ _ =>
        (Lockstep.tell rfl).bind fun _ _ _ => ?_
      exact .act fun _ _ _ b => ⟨true, b, rfl, rfl, trivial⟩

/-- A query whose answer is not looked at. -/
theorem lockstep_ask (q q' : Query) (hq : q.shape = q'.shape)
    (hp : P (q.statement config.table)) :
    Lockstep config P (do let _ ← ask server q) (do let _ ← ask server q') fun _ _ => True :=
  (Lockstep.ask hs q q' hq hp).bind fun _ _ _ => .pure trivial

theorem lockstep_get (key key' : Bytes)
    (hp : ∀ now, P ((Query.select key now).statement config.table)) :
    Lockstep config P (get server key) (get server key') fun _ _ => True :=
  (Lockstep.read _ _).bind fun now now' _ =>
    (Lockstep.ask hs (.select key now) (.select key' now') rfl (hp now)).bind fun _ _ _ =>
      .pure trivial

theorem lockstep_upsert (key value key' value' : Bytes) (ttl ttl' : Option Duration)
    (hp : ∀ deadline, P ((Query.upsert key value deadline).statement config.table)) :
    Lockstep config P (upsert server key value ttl) (upsert server key' value' ttl')
      fun _ _ => True :=
  (Lockstep.read _ _).bind fun deadline deadline' _ =>
    lockstep_ask hs (.upsert key value deadline) (.upsert key' value' deadline') rfl (hp deadline)

/-- When no row was touched, the value is read anew in both programs. -/
theorem lockstep_compareAndSwap (key new key' new' : Bytes) (expected expected' : Option Bytes)
    (ttl ttl' : Option Duration) (presence : expected.isSome = expected'.isSome) :
    Lockstep config (IsSent config (.compareAndSwap key expected new ttl))
      (compareAndSwap server key expected new ttl)
      (compareAndSwap server key' expected' new' ttl') fun _ _ => True := by
  generalize hc : Command.compareAndSwap key expected new ttl = c
  have tail (swapped swapped' : Swap) (answer answer' : Answer) (h : answer = answer') :
      Lockstep config (IsSent config c)
        (if answer.count = 1 then pure swapped
          else do return ⟨← get server key, false⟩ : ClientCall β Swap)
        (if answer'.count = 1 then pure swapped' else do return ⟨← get server key', false⟩)
        fun _ _ => True := by
    cases h
    split
    · exact .pure trivial
    · refine (lockstep_get hs key key' fun now => isSent config ?_).bind fun _ _ _ => .pure trivial
      simp [Query.params, ← hc, Command.data]
  refine .bind .connected fun _ _ _ => (Lockstep.read _ _).bind fun now now' _ =>
    (Lockstep.read _ _).bind fun deadline deadline' _ => ?_
  cases expected with
  | none =>
    cases expected' with
    | some => cases presence
    | none =>
      refine (Lockstep.ask hs (.insertUnlessLive key new deadline now)
        (.insertUnlessLive key' new' deadline' now') rfl (isSent config ?_)).bind (tail _ _)
      simp [Query.params, ← hc, Command.data]
  | some old =>
    cases expected' with
    | none => cases presence
    | some old' =>
      refine (Lockstep.ask hs (.updateIfLive key new deadline old now)
        (.updateIfLive key' new' deadline' old' now') rfl (isSent config ?_)).bind (tail _ _)
      simp [Query.params, ← hc, Command.data]

/-- Nothing is asked for an empty batch. -/
theorem lockstep_batchGet (keys keys' : List Bytes) (emptiness : keys.isEmpty = keys'.isEmpty)
    (hp : ∀ now, P ((Query.selectMany keys now).statement config.table)) :
    Lockstep config P (batchGet server keys) (batchGet server keys') fun _ _ => True := by
  unfold batchGet
  rw [emptiness]
  split
  · exact .pure trivial
  · exact (Lockstep.read _ _).bind fun now now' _ =>
      (Lockstep.ask hs (.selectMany keys now) (.selectMany keys' now') rfl (hp now)).bind
        fun _ _ _ => .pure trivial

/-- Two commands of one kind take the same steps. -/
theorem lockstep_call {c c' : Command} (h : c.Alike c') :
    Lockstep config (IsSent config c) (call server c) (call server c') fun _ _ => True := by
  cases h with
  | connect => exact lockstep_connect hs (isSent config nofun)
  | ready => exact lockstep_ask hs .ping .ping rfl (isSent config nofun)
  | close => exact .act fun _ _ _ b => ⟨false, b, rfl, rfl, trivial⟩
  | get key key' =>
    refine lockstep_get hs key key' fun now => isSent config ?_
    simp [Query.params, Command.data]
  | put key value key' value' =>
    refine lockstep_upsert hs key value key' value' none none fun deadline => isSent config ?_
    simp [Query.params, Command.data]
  | putWithTtl key value key' value' ttl ttl' =>
    refine lockstep_upsert hs key value key' value' ttl ttl' fun deadline => isSent config ?_
    simp [Query.params, Command.data]
  | compareAndSwap key new key' new' expected expected' ttl ttl' presence =>
    exact lockstep_compareAndSwap hs key new key' new' expected expected' ttl ttl' presence
  | delete key key' =>
    refine lockstep_ask hs (.delete key) (.delete key') rfl (isSent config ?_)
    simp [Query.params, Command.data]
  | batchGet keys keys' emptiness =>
    refine lockstep_batchGet hs keys keys' emptiness fun now => isSent config ?_
    simp [Query.params, Command.data]
  | batchPut pairs pairs' emptiness =>
    show Lockstep config _ (batchPut server pairs) (batchPut server pairs') _
    unfold batchPut
    rw [emptiness]
    split
    · exact .pure trivial
    · refine lockstep_ask hs (.upsertMany ..) (.upsertMany ..) rfl (isSent config ?_)
      have sent {p : Bytes × Bytes} (h : p ∈ lastWrites pairs) {b : Bytes} (hb : b ∈ [p.1, p.2]) :
          b ∈ (Command.batchPut pairs).data :=
        List.mem_flatMap.2 ⟨p, mem_of_mem_lastWrites h, hb⟩
      simp only [Query.params, List.forall_mem_cons, supplies_byteArray, List.forall_mem_map]
      exact ⟨fun p h => sent h (.head _), fun p h => sent h (.tail _ (.head _)), nofun⟩
  | batchDelete keys keys' emptiness =>
    show Lockstep config _ (batchDelete server keys) (batchDelete server keys') _
    unfold batchDelete
    rw [emptiness]
    split
    · exact .pure trivial
    · refine lockstep_ask hs (.deleteMany keys) (.deleteMany keys') rfl (isSent config ?_)
      simp [Query.params, Command.data]

end OneCommand

end Postgres

/-! ## Runs -/

/-- What is told of the commands of a run that are given to a driver one after the other. -/
def Driver.told {β : Type} (d : Driver (Clocked β)) (t : Tick) : CommandRun → β → List Event
  | [], _ => []
  | (now, c) :: run, b =>
    let o := (d.call c).run none t ⟨now, b⟩
    o.events ++ d.told t run o.state.store

namespace Postgres

variable {β : Type} {server : Server β}

/-- Two runs of commands that are of the same kinds send the same texts, and each statement of the
first one asks a query with the keys and values of one of its commands. -/
theorem told_of_alike (hs : server.IsBlind) (config : PostgresConfig) (t : Tick)
    {run run' : CommandRun} (h : List.Forall₂ (fun step step' => step.2.Alike step'.2) run run')
    (isConnected : Bool) (b : β) :
    texts ((driver server).told t run ⟨config, isConnected, b⟩) =
        texts ((driver server).told t run' ⟨config, isConnected, b⟩) ∧
      ∀ s ∈ statements ((driver server).told t run ⟨config, isConnected, b⟩),
        ∃ step ∈ run, IsSent config step.2 s := by
  induction h generalizing isConnected b with
  | nil => exact ⟨rfl, nofun⟩
  | cons alike _ ih =>
    rename_i step step' run run' _
    have both : Lockstep config (IsSent config step.2) (call server step.2)
        (call server step'.2) fun _ _ => True := lockstep_call hs alike
    obtain ⟨r, r', c₁, b₁, es, es', hx, hy, -, ht, hq⟩ := both step.1 step'.1 isConnected b
    obtain ⟨ht', hq'⟩ := ih c₁ b₁
    have hx : ((driver server).call step.2).run none t ⟨step.1, config, isConnected, b⟩ = _ :=
      hx none t
    have hy : ((driver server).call step'.2).run none t ⟨step'.1, config, isConnected, b⟩ = _ :=
      hy none t
    simp only [Driver.told, hx, hy, texts_append, statements_append, List.mem_append]
    refine ⟨by rw [ht, ht'], fun s h => ?_⟩
    obtain h | h := h
    · exact ⟨step, .head _, hq s h⟩
    · obtain ⟨step', hm, hsent⟩ := hq' s h
      exact ⟨step', .tail _ hm, hsent⟩

/-- Nothing that a caller hands over comes into a text that is sent to the database. A client is
made exactly for names that are identifiers. Each statement of a run is in one of the shapes, with
the name of the table in its gaps, and keys and values of the run are among its parameters only:
another run of commands of the same kinds, to a server that follows the same script, sends the same
texts, whatever its keys, values and deadlines are and whatever the clocks read. -/
theorem sql_carries_no_data (config : PostgresConfig) (t : Tick) (isConnected : Bool)
    (script : Script) :
    (checkTable config = .ok () ↔ config.table.toList ∈ identifier.matches') ∧
    (∀ run : CommandRun,
      ∀ s ∈ statements ((driver Server.scripted).told t run ⟨config, isConnected, script⟩),
        (∃ shape : Shape, s.sql = shape.template.fill config.table) ∧
          ∃ step ∈ run, ∀ p ∈ s.params, step.2.Supplies p) ∧
    ∀ run run' : CommandRun, List.Forall₂ (fun step step' => step.2.Alike step'.2) run run' →
      texts ((driver Server.scripted).told t run ⟨config, isConnected, script⟩) =
        texts ((driver Server.scripted).told t run' ⟨config, isConnected, script⟩) := by
  refine ⟨checkTable_eq_ok_iff config, fun run s hmem => ?_, fun run run' h =>
    (told_of_alike Server.isBlind_scripted config t h isConnected script).1⟩
  have self : List.Forall₂ (fun step step' => step.2.Alike step'.2) run run :=
    List.forall₂_same.2 fun step _ => .refl step.2
  obtain ⟨step, hstep, q, rfl, hp⟩ :=
    (told_of_alike Server.isBlind_scripted config t self isConnected script).2 s hmem
  exact ⟨⟨q.shape, q.sql_eq_fill config.table⟩, step, hstep, hp⟩

/-- A conditional write that finds another value, which is then read, and two batches. The other run
hands over quotes and semicolons, and a deadline. -/
theorem sql_carries_no_data_of_lost_swap :
    let config : PostgresConfig := ⟨"", "t", none, none, 8⟩
    let script : Script := ⟨true, [.affected 0, .rows [[[7]]]]⟩
    let run : CommandRun := [(1, .compareAndSwap [1] (some [2]) [3] none), (1, .batchGet []),
      (2, .batchPut [([4], [5]), ([4], [6])])]
    let run' : CommandRun := [(9, .compareAndSwap [39, 59] (some []) [34, 45, 45] (some ⟨1000000⟩)),
      (9, .batchGet []), (9, .batchPut [([39, 41], [59])])]
    List.Forall₂ (fun step step' : Reading × Command => step.2.Alike step'.2) run run' ∧
      texts ((driver Server.scripted).told 0 run ⟨config, true, script⟩) =
        texts ((driver Server.scripted).told 0 run' ⟨config, true, script⟩) ∧
      (texts ((driver Server.scripted).told 0 run ⟨config, true, script⟩)).length = 3 := by
  intro config script run run'
  have alike : List.Forall₂ (fun step step' : Reading × Command => step.2.Alike step'.2) run run' :=
    .cons (.compareAndSwap _ _ _ _ _ _ _ _ rfl)
      (.cons (.batchGet _ _ rfl) (.cons (.batchPut _ _ rfl) .nil))
  exact ⟨alike, (sql_carries_no_data config 0 true script).2.2 run run' alike, by decide +kernel⟩

end Postgres

end KvBridge
