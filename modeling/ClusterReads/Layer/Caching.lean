import ClusterReads.Cache.Service
import ClusterReads.Cache.Slot
import ClusterReads.Store

/-!
# The caching layer

Answers of the cached calls are kept in a cache service and served from there while they last. A failing
cache never fails a read: the failure is counted, noted and gone around. Errors and absent records are
never kept.
-/
namespace ClusterReads

/-- The state of a caching layer over a cache service on states `κ`. -/
structure CachingState (κ : Type) where
  cache : κ
  /-- How often the service failed a read or write of this layer. -/
  failures : Nat
  deriving Repr

namespace Caching

variable {κ ρ α : Type}

/-- An action of the service in the state of the layer. -/
def useCache (x : Act κ α) : Act (CachingState κ) α :=
  fun env s =>
    let r := x env s.cache
    ⟨r.outcome, r.env, { s with cache := r.state }⟩

/-- Counts and notes a failure of the service. -/
def noteFailure (what key : String) (e : StoreError) : Act (CachingState κ) Unit := do
  Act.modify fun s => { s with failures := s.failures + 1 }
  Act.log .warn .caching ("Cache " ++ what ++ " failed for " ++ key ++ ": " ++ e.message)

/-- The first step of a read: what the cache holds, if anything usable. -/
def look (service : CacheService κ) (slot : CacheSlot α) : Act (CachingState κ) (Option α) := do
  match ← useCache (service.getAs slot.decode slot.key) with
  | .ok (some a) =>
    Act.log .debug .caching ("Cache hit for " ++ slot.key)
    return some a
  | .ok none =>
    Act.log .debug .caching ("Cache miss for " ++ slot.key)
    return none
  | .error e =>
    noteFailure "read" slot.key e
    return none

/-- The last step of a read: an answer worth keeping is written back. -/
def keep (service : CacheService κ) (ttl : Nat) (slot : CacheSlot α) :
    StoreResult α → Act (CachingState κ) Unit
  | .error _ => return
  | .ok a =>
    if slot.keeps a then do
      match ← useCache (service.set slot.key (slot.encode a) ttl) with
      | .ok () => return
      | .error e => noteFailure "write" slot.key e
    else return

/-- Looks into the cache, loads on a miss and keeps what was loaded. -/
def readThrough (service : CacheService κ) (ttl : Nat) (slot : CacheSlot α)
    (load : Act ρ (StoreResult α)) : Act (CachingState κ × ρ) (StoreResult α) := do
  match ← (look service slot).onFst with
  | some a => return .ok a
  | none =>
    let result ← load.onSnd
    (keep service ttl slot result).onFst
    return result

/-- The cached calls are read through the cache, all others are passed on. -/
def layer (service : CacheService κ) (ttl : Nat) (inner : Store ρ) : Store (CachingState κ × ρ) :=
  fun c =>
    match c.slot? with
    | some slot => (readThrough service ttl slot (inner c)).within c.operation.name
    | none => (inner c).onSnd

/-! ## Invalidation -/

/-- What can be taken out of the cache at once. -/
inductive Invalidation where
  | frameworkId
  | quotas
  | host (name : String)
  | deploys
  | everything
  deriving DecidableEq, Repr

/-- The deletions of several keys in turn; the first failure ends them. -/
def deleteAll (service : CacheService κ) : List String → Act κ (StoreResult Unit)
  | [] => return .ok ()
  | key :: rest => do
    match ← service.delete key with
    | .error e => return .error e
    | .ok _ => deleteAll service rest

def invalidate (service : CacheService κ) : Invalidation → Act κ (StoreResult Unit)
  | .frameworkId => deleteAll service [frameworkIdKey]
  | .quotas => do
    let result ← service.clearPrefix CacheFamily.quota.start
    return result.map fun _ => ()
  | .host name => deleteAll service [CacheFamily.host.keyOf name, CacheFamily.host.allKey]
  | .deploys => do
    let result ← service.clearPrefix CacheFamily.deploy.start
    return result.map fun _ => ()
  | .everything => service.clear

/-- The statistics of the service, with the failures of this layer. -/
def stats (service : CacheService κ) : Act (CachingState κ) CacheStats := do
  let s ← useCache service.stats
  let own ← Act.get
  return { s with errors := s.errors + own.failures }

end Caching

end ClusterReads
