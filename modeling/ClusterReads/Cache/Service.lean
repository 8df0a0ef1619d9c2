import ClusterReads.Act
import ClusterReads.Json.Codec
import ClusterReads.StoreError

/-!
# Cache services

A cache as its users see it: six methods on some state, of which all but the statistics may fail. The
services here are a table of one's own, the shared table, and a service whose methods fail in part.
-/
namespace ClusterReads

structure CacheService (σ : Type) where
  get : String → Act σ (Except StoreError (Option String))
  /-- Writes a text under a key for a span of time. -/
  set : String → String → Nat → Act σ (Except StoreError Unit)
  delete : String → Act σ (Except StoreError Bool)
  /-- Removes what is held under keys that begin with a text, and says how much that was. -/
  clearPrefix : String → Act σ (Except StoreError Nat)
  clear : Act σ (Except StoreError Unit)
  stats : Act σ CacheStats

namespace CacheTable

/-- Reads a key now. -/
def read (key : String) : Act CacheTable (Option String) := do
  let now ← Act.now
  Act.step fun t => t.get now key

/-- Notes the key that was evicted, if any. -/
def logEviction : Option String → Act CacheTable Unit
  | some key => Act.log .debug .cacheTable ("Evicting cache entry: " ++ key)
  | none => return

/-- Writes a text for a span of time from now. Room is made before the moment of expiry is formed. -/
def write (key value : String) (ttl : Nat) : Act CacheTable Unit := do
  let env ← Act.ask
  let now ← Act.now
  let victim ← Act.step fun t => let (t, victim) := t.makeRoom env.order now key; (victim, t)
  logEviction victim
  let expiry ← Act.attempt (Clock.later now ttl)
  Act.modify fun t => t.put ⟨key, value, expiry⟩

end CacheTable

namespace CacheService

variable {σ : Type}

/-- The table that is the state itself. -/
def table : CacheService CacheTable where
  get key := Except.ok <$> CacheTable.read key
  set key value ttl := Except.ok <$> CacheTable.write key value ttl
  delete key := Except.ok <$> Act.step (·.delete key)
  clearPrefix start := Except.ok <$> Act.step (·.clearPrefix start)
  clear := Except.ok <$> Act.step fun t => ((), t.clear.2)
  stats := CacheTable.stats <$> Act.get

/-- The table that all stores share. -/
def shared : CacheService σ where
  get key := (table.get key).onShared
  set key value ttl := (table.set key value ttl).onShared
  delete key := (table.delete key).onShared
  clearPrefix start := (table.clearPrefix start).onShared
  clear := table.clear.onShared
  stats := table.stats.onShared

/-- What a cache does. -/
inductive Method where
  | get
  | set
  | delete
  | clearPrefix
  | clear
  deriving DecidableEq, Repr

instance : Spelled Method where
  all := [.get, .set, .delete, .clearPrefix, .clear]
  name
    | .get => "get"
    | .set => "set"
    | .delete => "delete"
    | .clearPrefix => "clear_prefix"
    | .clear => "clear"
  mem_all a := by cases a <;> decide
  name_injective a b := by cases a <;> cases b <;> decide

/-- The failure of a method that cannot reach its cache. -/
def refused : StoreError :=
  .cache "connection refused"

/-- The given methods fail and leave the cache alone. -/
def broken (methods : List Method) (service : CacheService σ) : CacheService σ where
  get key := if methods.contains .get then return .error refused else service.get key
  set key value ttl :=
    if methods.contains .set then return .error refused else service.set key value ttl
  delete key := if methods.contains .delete then return .error refused else service.delete key
  clearPrefix start :=
    if methods.contains .clearPrefix then return .error refused else service.clearPrefix start
  clear := if methods.contains .clear then return .error refused else service.clear
  stats := service.stats

/-- What stands for the reason why a text could not be decoded. -/
def undecodable : StoreError :=
  .cache "<json>"

/-- Reads a value; a text that does not decode is an error. -/
def getAs {α : Type} (service : CacheService σ) (decode : String → Option α) (key : String) :
    Act σ (Except StoreError (Option α)) := do
  match ← service.get key with
  | .error e => return .error e
  | .ok none => return .ok none
  | .ok (some text) =>
    match decode text with
    | some a => return .ok (some a)
    | none => return .error undecodable

end CacheService

end ClusterReads
