import KvBridge.Connection

/-!
# Caches

A cache reads, writes, adds and deletes single values over a connection, which it sets up when it
is first needed. Adding writes a value only if the key has none; with a driver whose conditional
writes are not atomic it looks first and writes then, so that another writer may come between.

* `Cache.get`, `Cache.set`, `Cache.add`, `Cache.delete`;
* `Cache.effectiveTtl`: how long a value lives.
-/

namespace KvBridge

/-- A cache over a connection. -/
structure Cache (δ : Type) where
  conn : Connection δ
  defaultTtl : Option Duration

namespace Cache

variable {δ : Type} (cache : Cache δ)

/-- Whether adding is one conditional write. -/
def atomicAdd : Bool := cache.conn.driver.atomicSwap

/-- The cache of a connection. It warns when adding is not atomic. -/
def build (conn : Connection δ) (config : CacheConfig) : Cache δ × List Event :=
  (⟨conn, config.defaultTtl⟩,
    if conn.driver.atomicSwap then []
    else [.notice .warn
      "backend has no atomic compare-and-swap; add falls back to a racy check-then-set"])

/-- The caller's span of life, or else the configured one. -/
def effectiveTtl (ttl : Option Duration) : Option Duration := ttl.or cache.defaultTtl

/-- The value of a key. -/
def get (ctx : Context) (key : Bytes) : Call (Link δ) Bytes :=
  observed "cache" "get" do
    let found ← cache.conn.perform ctx (.get key) (.transportForKey "get" key)
    match found with
    | some value => return value
    | none => throw .keyNotFound

/-- Writes a value that lives so long. -/
def store (ctx : Context) (key value : Bytes) (ttl : Option Duration) : Call (Link δ) Unit :=
  match ttl with
  | none => cache.conn.perform ctx (.put key value) (.transportForKey "set" key)
  | some ttl => cache.conn.perform ctx (.putWithTtl key value ttl) (.transportForKey "set" key)

/-- Writes a value. -/
def set (ctx : Context) (key value : Bytes) (ttl : Option Duration) : Call (Link δ) Unit :=
  observed "cache" "set" (cache.store ctx key value (cache.effectiveTtl ttl))

/-- Adds a value with one conditional write. -/
def addBySwap (ctx : Context) (key value : Bytes) (ttl : Option Duration) :
    Call (Link δ) Unit := do
  let outcome ← cache.conn.perform ctx (.compareAndSwap key none value ttl)
    (.transportForKey "add" key)
  unless outcome.swapped do throw .keyAlreadyExists

/-- Adds a value by looking first and writing then. -/
def addByLooking (ctx : Context) (key value : Bytes) (ttl : Option Duration) :
    Call (Link δ) Unit := do
  let found ← cache.conn.perform ctx (.get key) (.transportForKey "add" key)
  if found.isSome then throw .keyAlreadyExists
  cache.store ctx key value ttl

/-- Writes a value if the key has none. -/
def add (ctx : Context) (key value : Bytes) (ttl : Option Duration) : Call (Link δ) Unit :=
  observed "cache" "add" <|
    if cache.atomicAdd then cache.addBySwap ctx key value (cache.effectiveTtl ttl)
    else cache.addByLooking ctx key value (cache.effectiveTtl ttl)

/-- Takes a key out. -/
def delete (ctx : Context) (key : Bytes) : Call (Link δ) Unit :=
  observed "cache" "delete" <|
    cache.conn.perform ctx (.delete key) (.transportForKey "delete" key)

/-- A cache as text. -/
def render (phase : Phase) : String :=
  "CacheAdapter \x7b conn: " ++ cache.conn.render phase ++ ", default_ttl: " ++
    (match cache.defaultTtl with
      | none => "None"
      | some d => "Some(" ++ d.render ++ ")") ++
    ", atomic_add: " ++ (if cache.atomicAdd then "true" else "false") ++ " \x7d"

end Cache

end KvBridge
