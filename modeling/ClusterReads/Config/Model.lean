import ClusterReads.Spelled

/-!
# Configuration

What can be set: which layers a store gets and how they work, and how the program observes itself.
-/
namespace ClusterReads

structure CacheConfig where
  enabled : Bool
  /-- How long answers are kept, in seconds. -/
  ttlSeconds : UInt64
  maxEntries : UInt64
  deriving DecidableEq, Repr

instance : Inhabited CacheConfig := ⟨⟨false, 30, 10000⟩⟩

structure InstrumentationConfig where
  enabled : Bool
  /-- The duration in milliseconds from which a call is slow. -/
  slowThresholdMs : UInt64
  deriving DecidableEq, Repr

instance : Inhabited InstrumentationConfig := ⟨⟨true, 250⟩⟩

structure AuditConfig where
  enabled : Bool
  /-- The names of the operations to audit; none named means all. -/
  operations : List String
  deriving DecidableEq, Repr

instance : Inhabited AuditConfig := ⟨⟨false, []⟩⟩

structure ValidationConfig where
  enabled : Bool
  deriving DecidableEq, Repr

instance : Inhabited ValidationConfig := ⟨⟨false⟩⟩

structure StorageConfig where
  cache : CacheConfig
  instrumentation : InstrumentationConfig
  audit : AuditConfig
  validation : ValidationConfig
  deriving DecidableEq, Repr, Inhabited

inductive LogFormat where
  | json
  | pretty
  deriving DecidableEq, Repr

instance : Inhabited LogFormat := ⟨.json⟩

instance : Spelled LogFormat where
  all := [.json, .pretty]
  name
    | .json => "json"
    | .pretty => "pretty"
  mem_all a := by cases a <;> decide
  name_injective a b := by cases a <;> cases b <;> decide

structure ObservabilityConfig where
  logLevel : String
  logFormat : LogFormat
  metricsEnabled : Bool
  deriving DecidableEq, Repr

instance : Inhabited ObservabilityConfig := ⟨⟨"info", .json, true⟩⟩

structure AppConfig where
  storage : StorageConfig
  observability : ObservabilityConfig
  deriving DecidableEq, Repr, Inhabited

/-- The time that answers are kept, in nanoseconds. -/
def CacheConfig.ttl (c : CacheConfig) : Nat :=
  c.ttlSeconds.toNat * 1000000000

/-- The slow threshold in nanoseconds. -/
def InstrumentationConfig.slowThreshold (c : InstrumentationConfig) : Nat :=
  c.slowThresholdMs.toNat * 1000000

example : (default : AppConfig).storage.cache.ttlSeconds = 30 := by decide
example : (default : AppConfig).storage.instrumentation.enabled = true := by decide

end ClusterReads
