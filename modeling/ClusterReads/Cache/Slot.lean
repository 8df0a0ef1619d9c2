import ClusterReads.Call
import ClusterReads.Json.Codec
import ClusterReads.Record.Codec

/-!
# Cache slots

The seven calls that are served from a cache, and where and how their answers are kept. Keys of single
records carry the mark `key`, so that no record can stand where an aggregate stands.
-/
namespace ClusterReads

/-- A family of cached records. -/
inductive CacheFamily where
  | frameworkId
  | quota
  | host
  | deploy
  deriving DecidableEq, Repr

namespace CacheFamily

def name : CacheFamily → String
  | .frameworkId => "framework_id"
  | .quota => "quota"
  | .host => "host"
  | .deploy => "deploy"

/-- What all keys of the family begin with. -/
def start (f : CacheFamily) : String :=
  f.name ++ ":"

/-- The key of one record. -/
def keyOf (f : CacheFamily) (id : String) : String :=
  f.name ++ ":key:" ++ id

/-- The key of all records together. -/
def allKey (f : CacheFamily) : String :=
  f.name ++ ":all"

end CacheFamily

/-- The key of the framework's identity. -/
def frameworkIdKey : String :=
  CacheFamily.frameworkId.name ++ ":current"

/-- Where a value is kept in a cache, and in which form. -/
structure CacheSlot (α : Type) where
  key : String
  encode : α → String
  decode : String → Option α
  /-- Whether a value is worth keeping. -/
  keeps : α → Bool

/-- The slot for a lookup by key: what is absent is not kept. -/
def CacheSlot.lookup {α : Type} [JsonCodec α] (key : String) : CacheSlot (Option α) :=
  ⟨key, JsonCodec.write, JsonCodec.read? _, Option.isSome⟩

/-- The slot for an answer that is always kept. -/
def CacheSlot.always {α : Type} [JsonCodec α] (key : String) : CacheSlot α :=
  ⟨key, JsonCodec.write, JsonCodec.read? _, fun _ => true⟩

/-- The slot of a call, if the call is one that is cached. -/
def Call.slot? : (c : Call) → Option (CacheSlot c.Answer)
  | .frameworkId => some (CacheSlot.lookup frameworkIdKey)
  | .quotas => some (CacheSlot.always CacheFamily.quota.allKey)
  | .quota role => some (CacheSlot.lookup (CacheFamily.quota.keyOf role))
  | .host name => some (CacheSlot.lookup (CacheFamily.host.keyOf name))
  | .hosts => some (CacheSlot.always CacheFamily.host.allKey)
  | .deploys => some (CacheSlot.always CacheFamily.deploy.allKey)
  | .deploy id => some (CacheSlot.always (CacheFamily.deploy.keyOf id))
  | .jobs _ | .job _ _ | .managerIds | .tasks _ | .locks | .lock _ => none

end ClusterReads
