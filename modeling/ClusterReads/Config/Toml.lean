import ClusterReads.Config.Check
import ClusterReads.Config.Reader
import ClusterReads.Toml.Document

/-!
# Configurations in TOML

Reading is strict: a setting has to have its own type, and a number out of range is refused wherever it is
looked at. A configuration is written as one section for every
group of settings, with an empty line between sections.
-/
namespace ClusterReads

open Toml

/-! ## Reading -/

/-- The fields of a record: those of a table by name, or the elements of an array in turn. A date holds
none of them. The other entries of a table are looked at, the further elements of an array are not. -/
def tomlFields (names : List String) : Toml → Option (List (Option Toml))
  | .table entries =>
    if entries.all fun e => names.contains e.1 || e.2.isSound then some (names.map (find? entries)) else none
  | .array items => some (names.mapIdx fun i _ => items[i]?)
  | .moment _ => some (names.map fun _ => none)
  | _ => none

/-- A name stands by itself or over an empty list or table. -/
def tomlName : Toml → Option String
  | .text s => some s
  | .table [(s, .table [])] => some s
  | .table [(s, .array [])] => some s
  | _ => none

/-- Strict types. -/
def ConfigReader.toml : ConfigReader Toml where
  bool
    | .bool b => some b
    | _ => none
  word
    | .integer n => if 0 ≤ n ∧ n.toNat < UInt64.size then some (UInt64.ofNat n.toNat) else none
    | _ => none
  text
    | .text s => some s
    | _ => none
  name := tomlName
  list
    | .array items => some items
    | _ => none
  fields := tomlFields

namespace AppConfig

/-- The configuration of a TOML text, whether or not its settings make sense. -/
def ofToml? (s : String) : Option AppConfig := do
  read .toml (← Toml.parse? s)

/-- The configuration of a TOML text, checked. -/
def fromToml (s : String) : Except SetupError AppConfig := do
  match ofToml? s with
  | none => .error .unreadable
  | some c =>
    c.check
    return c

end AppConfig

/-! ## Writing -/

namespace Toml

def ofBool (b : Bool) : List Char :=
  (if b then "true" else "false").toList

def ofWord (n : UInt64) : List Char :=
  (Decimal.text n.toNat).toList

/-- An array with at most one element stands on one line; a longer one has a line for every element. -/
def ofTexts : List String → List Char
  | [] => ['[', ']']
  | [s] => '[' :: quote s ++ [']']
  | ss => '[' :: '\n' :: ss.flatMap (fun s => "    ".toList ++ quote s ++ [',', '\n']) ++ [']']

/-- A setting on a line of its own. -/
def settingLine (name : String) (v : List Char) : List Char :=
  name.toList ++ [' ', '=', ' '] ++ v ++ ['\n']

/-- A section: its header and its settings. -/
def sectionText (path : String) (names : List String) (values : List (List Char)) : List Char :=
  '[' :: path.toList ++ [']', '\n'] ++ (List.zipWith settingLine names values).flatten

end Toml

def CacheConfig.section (c : CacheConfig) : List Char :=
  sectionText "storage.cache" CacheConfig.fieldNames
    [ofBool c.enabled, ofWord c.ttlSeconds, ofWord c.maxEntries]

def InstrumentationConfig.section (c : InstrumentationConfig) : List Char :=
  sectionText "storage.instrumentation" InstrumentationConfig.fieldNames
    [ofBool c.enabled, ofWord c.slowThresholdMs]

def AuditConfig.section (c : AuditConfig) : List Char :=
  sectionText "storage.audit" AuditConfig.fieldNames [ofBool c.enabled, ofTexts c.operations]

def ValidationConfig.section (c : ValidationConfig) : List Char :=
  sectionText "storage.validation" ValidationConfig.fieldNames [ofBool c.enabled]

def ObservabilityConfig.section (c : ObservabilityConfig) : List Char :=
  sectionText "observability" ObservabilityConfig.fieldNames
    [quote c.logLevel, quote (Spelled.name c.logFormat), ofBool c.metricsEnabled]

/-- The TOML text of a configuration. -/
def AppConfig.toToml (c : AppConfig) : String :=
  String.ofList (List.intercalate ['\n']
    [c.storage.cache.section, c.storage.instrumentation.section, c.storage.audit.section,
      c.storage.validation.section, c.observability.section])

end ClusterReads
