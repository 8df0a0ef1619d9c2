import ClusterReads.Config.Loose
import ClusterReads.Proofs.Config.Tree

/-!
# The scalars of a configuration

Each scalar has a place in the tree of settings and a type that is asked for. From a tree that has groups
in the places of sections a configuration is read scalar by scalar: none depends on what stands at the
places of the others, or on whether the section around it is given at all.
-/
namespace ClusterReads

open ConfigReader

/-- The scalars that a configuration is made of, beside the list of audited operations. -/
inductive ScalarField where
  | cacheEnabled
  | ttlSeconds
  | maxEntries
  | instrumentationEnabled
  | slowThresholdMs
  | auditEnabled
  | validationEnabled
  | logLevel
  | logFormat
  | metricsEnabled
  deriving DecidableEq, Repr

namespace ScalarField

def path : ScalarField → List String
  | cacheEnabled => ["storage", "cache", "enabled"]
  | ttlSeconds => ["storage", "cache", "ttl_seconds"]
  | maxEntries => ["storage", "cache", "max_entries"]
  | instrumentationEnabled => ["storage", "instrumentation", "enabled"]
  | slowThresholdMs => ["storage", "instrumentation", "slow_threshold_ms"]
  | auditEnabled => ["storage", "audit", "enabled"]
  | validationEnabled => ["storage", "validation", "enabled"]
  | logLevel => ["observability", "log_level"]
  | logFormat => ["observability", "log_format"]
  | metricsEnabled => ["observability", "metrics_enabled"]

abbrev Value : ScalarField → Type
  | cacheEnabled | instrumentationEnabled | auditEnabled | validationEnabled | metricsEnabled => Bool
  | ttlSeconds | maxEntries | slowThresholdMs => UInt64
  | logLevel => String
  | logFormat => LogFormat

def get : (f : ScalarField) → AppConfig → f.Value
  | cacheEnabled, c => c.storage.cache.enabled
  | ttlSeconds, c => c.storage.cache.ttlSeconds
  | maxEntries, c => c.storage.cache.maxEntries
  | instrumentationEnabled, c => c.storage.instrumentation.enabled
  | slowThresholdMs, c => c.storage.instrumentation.slowThresholdMs
  | auditEnabled, c => c.storage.audit.enabled
  | validationEnabled, c => c.storage.validation.enabled
  | logLevel, c => c.observability.logLevel
  | logFormat, c => c.observability.logFormat
  | metricsEnabled, c => c.observability.metricsEnabled

/-- What is taken for a value of the scalar. -/
def coerce : (f : ScalarField) → Setting → Option f.Value
  | cacheEnabled | instrumentationEnabled | auditEnabled | validationEnabled | metricsEnabled =>
    looseBool
  | ttlSeconds | maxEntries | slowThresholdMs => looseWord
  | logLevel => looseText
  | logFormat => ConfigReader.loose.logFormat

/-- The scalar of a setting that may have been left out. -/
def read (f : ScalarField) (s? : Option Setting) : Option f.Value :=
  setting f.coerce (f.get default) s?

end ScalarField

/-- Where the sections of a configuration stand. -/
def AppConfig.sections : List (List String) :=
  [[], ["storage"], ["storage", "cache"], ["storage", "instrumentation"], ["storage", "audit"],
    ["storage", "validation"], ["observability"]]

/-- Where the list of audited operations stands. -/
def AuditConfig.operationsPath : List String :=
  ["storage", "audit", "operations"]

/-- The list of audited operations of a setting that may have been left out. -/
def AuditConfig.readOperations (s? : Option Setting) : Option (List String) :=
  setting ConfigReader.loose.texts (default : AuditConfig).operations s?

/-- What stands in the places of sections, if anything, are groups. -/
def Setting.Sectioned (s : Setting) : Prop :=
  ∀ path ∈ AppConfig.sections, ∀ t ∈ s.at? path, t.IsGroup

instance : DecidablePred Setting.Sectioned :=
  fun s => inferInstanceAs (Decidable (∀ path ∈ AppConfig.sections, ∀ t ∈ s.at? path, t.IsGroup))

/-- What stands under a name. -/
def Setting.under (s? : Option Setting) (name : String) : Option Setting :=
  s?.bind (at? [name])

open Setting

theorem Setting.under_group (members : List (String × Setting)) (name : String) :
    under (some (.group members)) name = member? name members :=
  Option.bind_fun_some _

/-! ## Records -/

section Records

variable {s? : Option Setting} (h : ∀ s ∈ s?, s.IsGroup)
include h

/-- A record is built of what stands under its names; where there is no group, nothing does. -/
theorem setting_record {α : Type} {names : List String} {build : List (Option Setting) → Option α}
    {fallback : α} (hfallback : build (names.map fun _ => none) = some fallback) :
    setting (fun s => looseFields names s >>= build) fallback s? = build (names.map (under s?)) := by
  cases s? with
  | none => exact hfallback.symm
  | some s =>
    obtain ⟨members, rfl⟩ := h s rfl
    have hunder : names.map (under (some (.group members))) =
        names.map fun name => member? name members :=
      List.map_congr_left fun name _ => under_group members name
    rw [hunder]
    rfl

theorem CacheConfig.setting_eq_some_iff {c : CacheConfig} :
    setting (read .loose) default s? = some c ↔
      ScalarField.cacheEnabled.read (under s? "enabled") = some c.enabled ∧
      ScalarField.ttlSeconds.read (under s? "ttl_seconds") = some c.ttlSeconds ∧
      ScalarField.maxEntries.read (under s? "max_entries") = some c.maxEntries := by
  have hread : setting (read .loose) default s? = do
      return ⟨← ScalarField.cacheEnabled.read (under s? "enabled"),
        ← ScalarField.ttlSeconds.read (under s? "ttl_seconds"),
        ← ScalarField.maxEntries.read (under s? "max_entries")⟩ :=
    setting_record h rfl
  obtain ⟨enabled, ttlSeconds, maxEntries⟩ := c
  simp [hread, Option.bind_eq_some_iff, -Bool.exists_bool]

theorem InstrumentationConfig.setting_eq_some_iff {c : InstrumentationConfig} :
    setting (read .loose) default s? = some c ↔
      ScalarField.instrumentationEnabled.read (under s? "enabled") = some c.enabled ∧
      ScalarField.slowThresholdMs.read (under s? "slow_threshold_ms") = some c.slowThresholdMs := by
  have hread : setting (read .loose) default s? = do
      return ⟨← ScalarField.instrumentationEnabled.read (under s? "enabled"),
        ← ScalarField.slowThresholdMs.read (under s? "slow_threshold_ms")⟩ :=
    setting_record h rfl
  obtain ⟨enabled, slowThresholdMs⟩ := c
  simp [hread, Option.bind_eq_some_iff, -Bool.exists_bool]

theorem AuditConfig.setting_eq_some_iff {c : AuditConfig} :
    setting (read .loose) default s? = some c ↔
      ScalarField.auditEnabled.read (under s? "enabled") = some c.enabled ∧
      readOperations (under s? "operations") = some c.operations := by
  have hread : setting (read .loose) default s? = do
      return ⟨← ScalarField.auditEnabled.read (under s? "enabled"),
        ← readOperations (under s? "operations")⟩ :=
    setting_record h rfl
  obtain ⟨enabled, operations⟩ := c
  simp [hread, Option.bind_eq_some_iff, -Bool.exists_bool]

theorem ValidationConfig.setting_eq_some_iff {c : ValidationConfig} :
    setting (read .loose) default s? = some c ↔
      ScalarField.validationEnabled.read (under s? "enabled") = some c.enabled := by
  have hread : setting (read .loose) default s? = do
      return ⟨← ScalarField.validationEnabled.read (under s? "enabled")⟩ :=
    setting_record h rfl
  obtain ⟨enabled⟩ := c
  simp [hread, Option.bind_eq_some_iff, -Bool.exists_bool]

theorem StorageConfig.setting_eq_some_iff {c : StorageConfig} :
    setting (read .loose) default s? = some c ↔
      setting (CacheConfig.read .loose) default (under s? "cache") = some c.cache ∧
      setting (InstrumentationConfig.read .loose) default (under s? "instrumentation") =
        some c.instrumentation ∧
      setting (AuditConfig.read .loose) default (under s? "audit") = some c.audit ∧
      setting (ValidationConfig.read .loose) default (under s? "validation") = some c.validation := by
  have hread : setting (read .loose) default s? = do
      return ⟨← setting (CacheConfig.read .loose) default (under s? "cache"),
        ← setting (InstrumentationConfig.read .loose) default (under s? "instrumentation"),
        ← setting (AuditConfig.read .loose) default (under s? "audit"),
        ← setting (ValidationConfig.read .loose) default (under s? "validation")⟩ :=
    setting_record h rfl
  obtain ⟨cache, instrumentation, audit, validation⟩ := c
  simp [hread, Option.bind_eq_some_iff, -Bool.exists_bool]

theorem ObservabilityConfig.setting_eq_some_iff {c : ObservabilityConfig} :
    setting (read .loose) default s? = some c ↔
      ScalarField.logLevel.read (under s? "log_level") = some c.logLevel ∧
      ScalarField.logFormat.read (under s? "log_format") = some c.logFormat ∧
      ScalarField.metricsEnabled.read (under s? "metrics_enabled") = some c.metricsEnabled := by
  have hread : setting (read .loose) default s? = do
      return ⟨← ScalarField.logLevel.read (under s? "log_level"),
        ← ScalarField.logFormat.read (under s? "log_format"),
        ← ScalarField.metricsEnabled.read (under s? "metrics_enabled")⟩ :=
    setting_record h rfl
  obtain ⟨logLevel, logFormat, metricsEnabled⟩ := c
  simp [hread, Option.bind_eq_some_iff, -Bool.exists_bool]

theorem AppConfig.setting_eq_some_iff {c : AppConfig} :
    setting (read .loose) default s? = some c ↔
      setting (StorageConfig.read .loose) default (under s? "storage") = some c.storage ∧
      setting (ObservabilityConfig.read .loose) default (under s? "observability") =
        some c.observability := by
  have hread : setting (read .loose) default s? = do
      return ⟨← setting (StorageConfig.read .loose) default (under s? "storage"),
        ← setting (ObservabilityConfig.read .loose) default (under s? "observability")⟩ :=
    setting_record h rfl
  obtain ⟨storage, observability⟩ := c
  simp [hread, Option.bind_eq_some_iff]

end Records

/-! ## Whole configurations -/

theorem Setting.under_at? (s : Setting) (path : List String) (name : String) :
    under (s.at? path) name = s.at? (path ++ [name]) :=
  (at?_append path [name] s).symm

/-- A configuration is read scalar by scalar. -/
theorem AppConfig.read_loose_eq_some_iff {s : Setting} (h : s.Sectioned) {c : AppConfig} :
    read .loose s = some c ↔ (∀ f : ScalarField, f.read (s.at? f.path) = some (f.get c)) ∧
      AuditConfig.readOperations (s.at? AuditConfig.operationsPath) =
        some c.storage.audit.operations := by
  -- the root is a section like the others, and each section is split into what stands under it
  have hroot : read .loose s = setting (read .loose) default (s.at? []) := rfl
  rw [hroot, setting_eq_some_iff (h [] (by decide))]
  simp only [under_at?, List.nil_append]
  rw [StorageConfig.setting_eq_some_iff (h ["storage"] (by decide)),
    ObservabilityConfig.setting_eq_some_iff (h ["observability"] (by decide))]
  simp only [under_at?, List.cons_append, List.nil_append]
  rw [CacheConfig.setting_eq_some_iff (h ["storage", "cache"] (by decide)),
    InstrumentationConfig.setting_eq_some_iff (h ["storage", "instrumentation"] (by decide)),
    AuditConfig.setting_eq_some_iff (h ["storage", "audit"] (by decide)),
    ValidationConfig.setting_eq_some_iff (h ["storage", "validation"] (by decide))]
  simp only [under_at?, List.cons_append, List.nil_append]
  constructor
  · rintro ⟨⟨⟨hcache, httl, hentries⟩, ⟨hinstrumentation, hthreshold⟩, ⟨haudit, hoperations⟩,
      hvalidation⟩, hlevel, hformat, hmetrics⟩
    exact ⟨fun f => by cases f <;> assumption, hoperations⟩
  · rintro ⟨hscalars, hoperations⟩
    exact ⟨⟨⟨hscalars .cacheEnabled, hscalars .ttlSeconds, hscalars .maxEntries⟩,
      ⟨hscalars .instrumentationEnabled, hscalars .slowThresholdMs⟩,
      ⟨hscalars .auditEnabled, hoperations⟩, hscalars .validationEnabled⟩, hscalars .logLevel,
      hscalars .logFormat, hscalars .metricsEnabled⟩

end ClusterReads
