import Mathlib.Data.List.Forall2
import ClusterReads.Proofs.Toml.Parser

/-!
# Configurations read back from TOML

The written text of a configuration says one header for every section and one entry for every setting.
Main statement: it is read as the configuration, or refused as the configuration is.
-/
namespace ClusterReads

open Toml Text Text.Scan

/-! ## Sections -/

namespace Toml

/-- A text that says certain statements, piece by piece, whatever follows it. -/
def Says (text : List Char) (statements : List Statement) : Prop :=
  ∃ pieces : List (List Char × Statement), text = pieces.flatMap Prod.fst ∧
    statements = pieces.map Prod.snd ∧
    ∀ p ∈ pieces, p.1 ≠ [] ∧ ∀ rest, statement (p.1 ++ rest) = some (some p.2, rest)

theorem Says.append {a b : List Char} {x y : List Statement} (ha : Says a x) (hb : Says b y) :
    Says (a ++ b) (x ++ y) := by
  obtain ⟨p, rfl, rfl, hp⟩ := ha
  obtain ⟨q, rfl, rfl, hq⟩ := hb
  refine ⟨p ++ q, by simp, by simp, fun e he => ?_⟩
  rcases List.mem_append.1 he with he | he
  · exact hp e he
  · exact hq e he

/-- An empty line in front changes nothing. -/
theorem Says.line {text : List Char} {s : Statement} {statements : List Statement}
    (h : Says text (s :: statements)) : Says ('\n' :: text) (s :: statements) := by
  obtain ⟨pieces, rfl, hstatements, hpieces⟩ := h
  cases pieces with
  | nil => cases hstatements
  | cons p pieces =>
    rw [List.forall_mem_cons] at hpieces
    refine ⟨('\n' :: p.1, p.2) :: pieces, by simp, hstatements, ?_⟩
    rw [List.forall_mem_cons]
    exact ⟨⟨by simp, fun rest => (statement_line _).trans (hpieces.1.2 rest)⟩, hpieces.2⟩

theorem Says.repeated {text : List Char} {statements : List Statement} (h : Says text statements) :
    repeated statement text = some (statements, []) := by
  obtain ⟨pieces, rfl, rfl, hpieces⟩ := h
  have hend : statement [] = some (none, []) := rfl
  simpa using repeated_pieces hpieces hend

/-- A section says its header and its settings. -/
theorem says_sectionText {path : String} {names : List String} {values : List (List Char)}
    {vs : List Toml} {header : Statement}
    (hheader : ∀ rest, statement ('[' :: (path.toList ++ ']' :: '\n' :: rest)) =
      some (some header, rest))
    (hnames : ∀ name ∈ names, Bare name) (hvalues : List.Forall₂ Writes values vs) :
    Says (sectionText path names values) (header :: List.zipWith (Statement.entry []) names vs) := by
  have hsettings : Says (List.zipWith settingLine names values).flatten
      (List.zipWith (Statement.entry []) names vs) := by
    induction hvalues generalizing names with
    | nil => exact ⟨[], by simp, by simp, by simp⟩
    | @cons cs v values vs hv _ ih =>
      cases names with
      | nil => exact ⟨[], by simp, by simp, by simp⟩
      | cons name names =>
        rw [List.forall_mem_cons] at hnames
        have hline : Says (settingLine name cs) [.entry [] name v] :=
          ⟨[(settingLine name cs, .entry [] name v)], by simp, by simp, by
            simpa using ⟨by simp [settingLine], statement_settingLine hnames.1 hv⟩⟩
        exact hline.append (ih hnames.2)
  have hfirst : Says ('[' :: path.toList ++ [']', '\n']) [header] :=
    ⟨[('[' :: path.toList ++ [']', '\n'], header)], by simp, by simp, by simpa using hheader⟩
  exact hfirst.append hsettings

end Toml

/-! ## Statements of a configuration -/

/-- The header of a group of storage settings. -/
def storageHeader (name : String) : Statement :=
  .table ["storage"] name

def CacheConfig.statements (c : CacheConfig) : List Statement :=
  storageHeader "cache" :: List.zipWith (.entry []) fieldNames
    [.bool c.enabled, .integer c.ttlSeconds.toNat, .integer c.maxEntries.toNat]

def InstrumentationConfig.statements (c : InstrumentationConfig) : List Statement :=
  storageHeader "instrumentation" :: List.zipWith (.entry []) fieldNames
    [.bool c.enabled, .integer c.slowThresholdMs.toNat]

def AuditConfig.statements (c : AuditConfig) : List Statement :=
  storageHeader "audit" :: List.zipWith (.entry []) fieldNames
    [.bool c.enabled, .array (c.operations.map .text)]

def ValidationConfig.statements (c : ValidationConfig) : List Statement :=
  storageHeader "validation" :: List.zipWith (.entry []) fieldNames [.bool c.enabled]

def ObservabilityConfig.statements (c : ObservabilityConfig) : List Statement :=
  .table [] "observability" :: List.zipWith (.entry []) fieldNames
    [.text c.logLevel, .text (Spelled.name c.logFormat), .bool c.metricsEnabled]

theorem CacheConfig.says_section (c : CacheConfig) : Says c.section c.statements :=
  says_sectionText (fun rest => (@statement_section "storage" "cache" (by decide) (by decide) rest).1)
    (by decide) (.cons (writes_bool _) (.cons (writes_word _) (.cons (writes_word _) .nil)))

theorem InstrumentationConfig.says_section (c : InstrumentationConfig) :
    Says c.section c.statements :=
  says_sectionText
    (fun rest => (@statement_section "storage" "instrumentation" (by decide) (by decide) rest).1)
    (by decide) (.cons (writes_bool _) (.cons (writes_word _) .nil))

theorem AuditConfig.says_section (c : AuditConfig) : Says c.section c.statements :=
  says_sectionText (fun rest => (@statement_section "storage" "audit" (by decide) (by decide) rest).1)
    (by decide) (.cons (writes_bool _) (.cons (writes_texts _) .nil))

theorem ValidationConfig.says_section (c : ValidationConfig) : Says c.section c.statements :=
  says_sectionText
    (fun rest => (@statement_section "storage" "validation" (by decide) (by decide) rest).1)
    (by decide) (.cons (writes_bool _) .nil)

theorem ObservabilityConfig.says_section (c : ObservabilityConfig) : Says c.section c.statements :=
  says_sectionText
    (fun rest => (@statement_section "observability" "observability" (by decide) (by decide) rest).2)
    (by decide) (.cons (writes_quote _) (.cons (writes_quote _) (.cons (writes_bool _) .nil)))

namespace AppConfig

def statements (c : AppConfig) : List Statement :=
  c.storage.cache.statements ++ (c.storage.instrumentation.statements ++
    (c.storage.audit.statements ++ (c.storage.validation.statements ++ c.observability.statements)))

theorem toList_toToml (c : AppConfig) : c.toToml.toList = c.storage.cache.section ++
    ('\n' :: c.storage.instrumentation.section ++ ('\n' :: c.storage.audit.section ++
      ('\n' :: c.storage.validation.section ++ '\n' :: c.observability.section))) := by
  simp [toToml, List.intercalate]

theorem says_toToml (c : AppConfig) : Says c.toToml.toList c.statements := by
  rw [toList_toToml]
  exact c.storage.cache.says_section.append (c.storage.instrumentation.says_section.line.append
    (c.storage.audit.says_section.line.append (c.storage.validation.says_section.line.append
      c.observability.says_section.line)))

theorem statements?_toToml (c : AppConfig) : statements? c.toToml = some c.statements := by
  have hrepeated := c.says_toToml.repeated
  obtain ⟨more, hhead⟩ : ∃ more, c.toToml.toList = '[' :: more := by
    rw [toList_toToml]
    exact ⟨_, rfl⟩
  rw [hhead] at hrepeated
  simp [statements?, hhead, hrepeated]

end AppConfig

/-! ## Tables of a configuration -/

def CacheConfig.table (c : CacheConfig) : Toml :=
  .table [("enabled", .bool c.enabled), ("ttl_seconds", .integer c.ttlSeconds.toNat),
    ("max_entries", .integer c.maxEntries.toNat)]

def InstrumentationConfig.table (c : InstrumentationConfig) : Toml :=
  .table [("enabled", .bool c.enabled), ("slow_threshold_ms", .integer c.slowThresholdMs.toNat)]

def AuditConfig.table (c : AuditConfig) : Toml :=
  .table [("enabled", .bool c.enabled), ("operations", .array (c.operations.map .text))]

def ValidationConfig.table (c : ValidationConfig) : Toml :=
  .table [("enabled", .bool c.enabled)]

def StorageConfig.table (c : StorageConfig) : Toml :=
  .table [("cache", c.cache.table), ("instrumentation", c.instrumentation.table),
    ("audit", c.audit.table), ("validation", c.validation.table)]

def ObservabilityConfig.table (c : ObservabilityConfig) : Toml :=
  .table [("log_level", .text c.logLevel), ("log_format", .text (Spelled.name c.logFormat)),
    ("metrics_enabled", .bool c.metricsEnabled)]

def AppConfig.table (c : AppConfig) : Toml :=
  .table [("storage", c.storage.table), ("observability", c.observability.table)]

theorem AppConfig.parse?_toToml (c : AppConfig) : Toml.parse? c.toToml = some c.table := by
  rw [parse?, statements?_toToml]
  rfl

open ConfigReader

theorem toml_word (n : UInt64) : ConfigReader.toml.word (.integer n.toNat) = some n := by
  have hlt : 0 ≤ (n.toNat : Int) ∧ (n.toNat : Int).toNat < UInt64.size :=
    ⟨Int.natCast_nonneg _, n.toNat_lt_size⟩
  change (if 0 ≤ (n.toNat : Int) ∧ (n.toNat : Int).toNat < UInt64.size then _ else none) = _
  rw [if_pos hlt, Int.toNat_natCast, UInt64.ofNat_toNat]

theorem toml_texts (ss : List String) : ConfigReader.toml.texts (.array (ss.map .text)) = some ss := by
  change (ss.map Toml.text).mapM ConfigReader.toml.text = some ss
  rw [List.mapM_map]
  change ss.mapM (fun s => (pure s : Option String)) = pure ss
  rw [List.mapM_pure, List.map_id']

theorem toml_logFormat (f : LogFormat) :
    ConfigReader.toml.logFormat (.text (Spelled.name f)) = some f :=
  Spelled.ofName?_name f

theorem CacheConfig.read_table (c : CacheConfig) : CacheConfig.read .toml c.table = some c := by
  have hfields : ConfigReader.toml.fields CacheConfig.fieldNames c.table =
      some [some (.bool c.enabled), some (.integer c.ttlSeconds.toNat),
        some (.integer c.maxEntries.toNat)] := rfl
  rw [CacheConfig.read, hfields]
  simp only [Option.bind_eq_bind, Option.bind_some, setting, toml_word]
  rfl

theorem InstrumentationConfig.read_table (c : InstrumentationConfig) :
    InstrumentationConfig.read .toml c.table = some c := by
  have hfields : ConfigReader.toml.fields InstrumentationConfig.fieldNames c.table =
      some [some (.bool c.enabled), some (.integer c.slowThresholdMs.toNat)] := rfl
  rw [InstrumentationConfig.read, hfields]
  simp only [Option.bind_eq_bind, Option.bind_some, setting, toml_word]
  rfl

theorem AuditConfig.read_table (c : AuditConfig) : AuditConfig.read .toml c.table = some c := by
  have hfields : ConfigReader.toml.fields AuditConfig.fieldNames c.table =
      some [some (.bool c.enabled), some (.array (c.operations.map .text))] := rfl
  rw [AuditConfig.read, hfields]
  simp only [Option.bind_eq_bind, Option.bind_some, setting, toml_texts]
  rfl

theorem ValidationConfig.read_table (c : ValidationConfig) :
    ValidationConfig.read .toml c.table = some c := rfl

theorem ObservabilityConfig.read_table (c : ObservabilityConfig) :
    ObservabilityConfig.read .toml c.table = some c := by
  have hfields : ConfigReader.toml.fields ObservabilityConfig.fieldNames c.table =
      some [some (.text c.logLevel), some (.text (Spelled.name c.logFormat)),
        some (.bool c.metricsEnabled)] := rfl
  rw [ObservabilityConfig.read, hfields]
  simp only [Option.bind_eq_bind, Option.bind_some, setting, toml_logFormat]
  rfl

theorem StorageConfig.read_table (c : StorageConfig) : StorageConfig.read .toml c.table = some c := by
  have hfields : ConfigReader.toml.fields StorageConfig.fieldNames c.table =
      some [some c.cache.table, some c.instrumentation.table, some c.audit.table,
        some c.validation.table] := rfl
  rw [StorageConfig.read, hfields]
  simp only [Option.bind_eq_bind, Option.bind_some, setting, CacheConfig.read_table,
    InstrumentationConfig.read_table, AuditConfig.read_table, ValidationConfig.read_table]
  rfl

namespace AppConfig

theorem read_table (c : AppConfig) : AppConfig.read .toml c.table = some c := by
  have hfields : ConfigReader.toml.fields AppConfig.fieldNames c.table =
      some [some c.storage.table, some c.observability.table] := rfl
  rw [AppConfig.read, hfields]
  simp only [Option.bind_eq_bind, Option.bind_some, setting, StorageConfig.read_table,
    ObservabilityConfig.read_table]
  rfl

/-- The text of a configuration is read as the configuration, if its settings make sense; else it is
refused for the same breach. -/
theorem fromToml_toToml (c : AppConfig) : fromToml c.toToml = c.check.map fun () => c := by
  have hread : ofToml? c.toToml = some c := by
    rw [ofToml?, parse?_toToml, Option.bind_eq_bind, Option.bind_some, read_table]
  have hfrom : fromToml c.toToml = c.check.bind fun _ => .ok c := by
    rw [fromToml, hread]
    rfl
  rw [hfrom]
  cases c.check <;> rfl

end AppConfig
end ClusterReads
