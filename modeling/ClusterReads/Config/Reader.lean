import ClusterReads.Config.Model
import ClusterReads.Json.Codec

/-!
# Reading configurations

How a configuration is read from values of any format. A format says what it takes for a truth value, a
word, a text, a name, a list and a record; a setting that is left out has its default.
-/
namespace ClusterReads

/-- What a format with values `τ` takes for the parts of a configuration. -/
structure ConfigReader (τ : Type) where
  bool : τ → Option Bool
  word : τ → Option UInt64
  text : τ → Option String
  /-- The name of an enumerated value. -/
  name : τ → Option String
  list : τ → Option (List τ)
  /-- The values of named fields, in the order of the names, where given. -/
  fields : List String → τ → Option (List (Option τ))

namespace ConfigReader

variable {τ α : Type}

/-- The value of a setting, or its default. -/
def setting (read : τ → Option α) (fallback : α) : Option τ → Option α
  | none => some fallback
  | some v => read v

def texts (r : ConfigReader τ) (v : τ) : Option (List String) := do
  (← r.list v).mapM r.text

def logFormat (r : ConfigReader τ) (v : τ) : Option LogFormat := do
  Spelled.ofName? (← r.name v)

end ConfigReader

open ConfigReader JsonCodec

namespace CacheConfig

def fieldNames : List String :=
  ["enabled", "ttl_seconds", "max_entries"]

def read {τ : Type} (r : ConfigReader τ) (v : τ) : Option CacheConfig := do
  match ← r.fields fieldNames v with
  | [enabled, ttl, entries] =>
    return ⟨← setting r.bool (default : CacheConfig).enabled enabled,
      ← setting r.word (default : CacheConfig).ttlSeconds ttl,
      ← setting r.word (default : CacheConfig).maxEntries entries⟩
  | _ => none

end CacheConfig

namespace InstrumentationConfig

def fieldNames : List String :=
  ["enabled", "slow_threshold_ms"]

def read {τ : Type} (r : ConfigReader τ) (v : τ) : Option InstrumentationConfig := do
  match ← r.fields fieldNames v with
  | [enabled, threshold] =>
    return ⟨← setting r.bool (default : InstrumentationConfig).enabled enabled,
      ← setting r.word (default : InstrumentationConfig).slowThresholdMs threshold⟩
  | _ => none

end InstrumentationConfig

namespace AuditConfig

def fieldNames : List String :=
  ["enabled", "operations"]

def read {τ : Type} (r : ConfigReader τ) (v : τ) : Option AuditConfig := do
  match ← r.fields fieldNames v with
  | [enabled, operations] =>
    return ⟨← setting r.bool (default : AuditConfig).enabled enabled,
      ← setting r.texts (default : AuditConfig).operations operations⟩
  | _ => none

end AuditConfig

namespace ValidationConfig

def fieldNames : List String :=
  ["enabled"]

def read {τ : Type} (r : ConfigReader τ) (v : τ) : Option ValidationConfig := do
  match ← r.fields fieldNames v with
  | [enabled] => return ⟨← setting r.bool (default : ValidationConfig).enabled enabled⟩
  | _ => none

end ValidationConfig

namespace StorageConfig

def fieldNames : List String :=
  ["cache", "instrumentation", "audit", "validation"]

def read {τ : Type} (r : ConfigReader τ) (v : τ) : Option StorageConfig := do
  match ← r.fields fieldNames v with
  | [cache, instrumentation, audit, validation] =>
    return ⟨← setting (CacheConfig.read r) default cache,
      ← setting (InstrumentationConfig.read r) default instrumentation,
      ← setting (AuditConfig.read r) default audit,
      ← setting (ValidationConfig.read r) default validation⟩
  | _ => none

end StorageConfig

namespace ObservabilityConfig

def fieldNames : List String :=
  ["log_level", "log_format", "metrics_enabled"]

def read {τ : Type} (r : ConfigReader τ) (v : τ) : Option ObservabilityConfig := do
  match ← r.fields fieldNames v with
  | [level, format, metrics] =>
    return ⟨← setting r.text (default : ObservabilityConfig).logLevel level,
      ← setting r.logFormat (default : ObservabilityConfig).logFormat format,
      ← setting r.bool (default : ObservabilityConfig).metricsEnabled metrics⟩
  | _ => none

end ObservabilityConfig

namespace AppConfig

def fieldNames : List String :=
  ["storage", "observability"]

def read {τ : Type} (r : ConfigReader τ) (v : τ) : Option AppConfig := do
  match ← r.fields fieldNames v with
  | [storage, observability] =>
    return ⟨← setting (StorageConfig.read r) default storage,
      ← setting (ObservabilityConfig.read r) default observability⟩
  | _ => none

end AppConfig

/-! ## JSON -/

/-- An array of fields may end early. -/
def jsonFields (names : List String) : Json → Option (List (Option Json))
  | .array items =>
    if items.length ≤ names.length then
      some (items.map some ++ List.replicate (names.length - items.length) none)
    else none
  | j => fields? names j

def jsonName : Json → Option String
  | .string s => s
  | .object [(some s, .null)] => some s
  | _ => none

/-- Strict types. -/
def ConfigReader.json : ConfigReader Json where
  bool := decode
  word := decode
  text := decode
  name := jsonName
  list
    | .array items => some items
    | _ => none
  fields := jsonFields

instance : JsonCodec LogFormat where
  encode := encodeName
  decode := decodeName

instance : JsonCodec CacheConfig where
  encode c := .record CacheConfig.fieldNames [encode c.enabled, encode c.ttlSeconds, encode c.maxEntries]
  decode := CacheConfig.read .json

instance : JsonCodec InstrumentationConfig where
  encode c := .record InstrumentationConfig.fieldNames [encode c.enabled, encode c.slowThresholdMs]
  decode := InstrumentationConfig.read .json

instance : JsonCodec AuditConfig where
  encode c := .record AuditConfig.fieldNames [encode c.enabled, encode c.operations]
  decode := AuditConfig.read .json

instance : JsonCodec ValidationConfig where
  encode c := .record ValidationConfig.fieldNames [encode c.enabled]
  decode := ValidationConfig.read .json

instance : JsonCodec StorageConfig where
  encode c := .record StorageConfig.fieldNames
    [encode c.cache, encode c.instrumentation, encode c.audit, encode c.validation]
  decode := StorageConfig.read .json

instance : JsonCodec ObservabilityConfig where
  encode c := .record ObservabilityConfig.fieldNames
    [encode c.logLevel, encode c.logFormat, encode c.metricsEnabled]
  decode := ObservabilityConfig.read .json

instance : JsonCodec AppConfig where
  encode c := .record AppConfig.fieldNames [encode c.storage, encode c.observability]
  decode := AppConfig.read .json

end ClusterReads
