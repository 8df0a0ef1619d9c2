import ClusterReads.Config.Model
import ClusterReads.Decimal.Digits
import ClusterReads.StoreError
import ClusterReads.Text.Lowercase
import ClusterReads.Text.Quoted

/-!
# Checking a configuration

Each section states what its settings have to satisfy, and the first breach is reported. Settings of a
layer that is switched off are not looked at, but for the names of audited operations.
-/
namespace ClusterReads

inductive ConfigError where
  | configuration (detail : String)
  | validation (detail : String)
  | parse (detail : String)
  deriving DecidableEq, Repr

namespace ConfigError

def kind : ConfigError → String
  | .configuration _ => "Configuration"
  | .validation _ => "Validation"
  | .parse _ => "Parse"

def message : ConfigError → String
  | .configuration detail => "Configuration error: " ++ detail
  | .validation detail => "Validation error: " ++ detail
  | .parse detail => "Parse error: " ++ detail

end ConfigError

abbrev Checked :=
  Except ConfigError Unit

namespace Checked

/-- Passes if a condition holds, else is a validation error. -/
def require (ok : Bool) (detail : String) : Checked :=
  if ok then .ok () else .error (.validation detail)

def notEmpty (value field : String) : Checked :=
  require (!Text.isBlank value) (field ++ " cannot be empty")

def positive (value : UInt64) (field : String) : Checked :=
  require (value != 0) (field ++ " must be greater than 0")

def inRange (value low high : UInt64) (field : String) : Checked :=
  require (low ≤ value && value ≤ high)
    (field ++ " must be between " ++ Decimal.text low.toNat ++ " and " ++ Decimal.text high.toNat ++
      ", got " ++ Decimal.text value.toNat)

def oneOf (value : String) (allowed : List String) (field : String) : Checked :=
  require (allowed.contains value)
    (field ++ " must be one of " ++ Text.quotedList allowed ++ ", got " ++ value)

/-- Checks in turn; the first breach counts. -/
def all : List Checked → Checked
  | [] => .ok ()
  | .ok () :: rest => all rest
  | .error e :: _ => .error e

end Checked

open Checked

def CacheConfig.check (c : CacheConfig) : Checked :=
  if c.enabled then
    all [inRange c.ttlSeconds 1 86400 "storage.cache.ttl_seconds",
      positive c.maxEntries "storage.cache.max_entries"]
  else .ok ()

def InstrumentationConfig.check (c : InstrumentationConfig) : Checked :=
  if c.enabled then positive c.slowThresholdMs "storage.instrumentation.slow_threshold_ms" else .ok ()

def AuditConfig.check (c : AuditConfig) : Checked :=
  all (c.operations.map fun name => notEmpty name "storage.audit.operations[]")

def StorageConfig.check (c : StorageConfig) : Checked :=
  all [c.cache.check, c.instrumentation.check, c.audit.check]

/-- The levels that a configuration may name, in lower case. -/
def ObservabilityConfig.levels : List String :=
  ["trace", "debug", "info", "warn", "error"]

def ObservabilityConfig.check (c : ObservabilityConfig) : Checked :=
  oneOf (Text.lowercase c.logLevel) ObservabilityConfig.levels "observability.log_level"

/-- The log format of a name in any case, or why there is none. -/
def LogFormat.parse (s : String) : Except String LogFormat :=
  match (Spelled.ofName? (Text.lowercase s) : Option LogFormat) with
  | some f => .ok f
  | none => .error ("Invalid log format: " ++ s ++ ". Valid formats: json, pretty")

/-- Why no configuration, or no store, came about. -/
inductive SetupError where
  /-- The text is no configuration in TOML. -/
  | unreadable
  | missingFile (path : String)
  /-- The sources of a configuration cannot be read or combined. -/
  | unbuildable
  /-- A setting has no value of its type. -/
  | misshapen
  | storage (cause : ConfigError)
  | observability (cause : ConfigError)
  /-- The layers cannot be put together. -/
  | layers (cause : ConfigError)
  | composition (cause : CompositionError)
  /-- The configuration that a store was to be built from could not be loaded. -/
  | loading (cause : SetupError)
  deriving Repr

namespace SetupError

/-- The causes, outermost first. -/
def causes : SetupError → List String
  | .unreadable => ["解析TOML配置失败"]
  | .missingFile path => ["配置文件不存在: " ++ path]
  | .unbuildable => ["构建配置失败"]
  | .misshapen => ["反序列化配置失败"]
  | .storage cause => ["存储配置验证失败", cause.message]
  | .observability cause => ["可观测性配置验证失败", cause.message]
  | .layers cause => ["构建存储装饰链失败", cause.message]
  | .composition cause => ["组合存储门面失败", cause.message]
  | .loading cause => "加载存储配置失败" :: cause.causes

def message (e : SetupError) : String :=
  ": ".intercalate e.causes

end SetupError

/-- The storage section first, then the observability section. -/
def AppConfig.check (c : AppConfig) : Except SetupError Unit := do
  c.storage.check.mapError .storage
  c.observability.check.mapError .observability

end ClusterReads
