/-!
# The journal

Log events with the spans that enclose them.
-/
namespace ClusterReads

inductive LogLevel where
  | error
  | warn
  | info
  | debug
  | trace
  deriving DecidableEq, Repr

namespace LogLevel

/-- From the gravest to the least. -/
def all : List LogLevel :=
  [.error, .warn, .info, .debug, .trace]

def name : LogLevel → String
  | .error => "ERROR"
  | .warn => "WARN"
  | .info => "INFO"
  | .debug => "DEBUG"
  | .trace => "TRACE"

end LogLevel

/-- Where an event comes from. -/
inductive LogSource where
  | composition
  | cacheTable
  | caching
  | validation
  | instrumentation
  | audit
  | assembly
  | bootstrap
  deriving DecidableEq, Repr

/-- The target under which a source is filtered. -/
def LogSource.target : LogSource → String
  | .composition => "scheduler_infrastructure::forwarding"
  | .cacheTable => "scheduler_infrastructure::cache::memory"
  | .caching => "scheduler_infrastructure::cache::store"
  | .validation => "scheduler_infrastructure::validation"
  | .instrumentation => "scheduler_infrastructure::observability::instrumented_store"
  | .audit => "storage::audit"
  | .assembly => "scheduler_infrastructure::factory"
  | .bootstrap => "scheduler_storage::app"

inductive LogValue where
  | text (s : String)
  | number (n : Nat)
  deriving DecidableEq, Repr

structure LogEvent where
  level : LogLevel
  source : LogSource
  message : String
  fields : List (String × LogValue)
  /-- The enclosing spans, outermost first. -/
  spans : List String
  deriving DecidableEq, Repr

structure Journal where
  /-- Events in the order of writing. -/
  events : List LogEvent
  /-- The spans entered and not left, outermost first. -/
  spans : List String
  deriving DecidableEq, Repr

namespace Journal

def empty : Journal :=
  ⟨[], []⟩

instance : Inhabited Journal := ⟨empty⟩

def write (j : Journal) (level : LogLevel) (source : LogSource) (message : String)
    (fields : List (String × LogValue)) : Journal :=
  { j with events := j.events ++ [⟨level, source, message, fields, j.spans⟩] }

def enter (j : Journal) (span : String) : Journal :=
  { j with spans := j.spans ++ [span] }

/-- Leaves the innermost span. -/
def leave (j : Journal) : Journal :=
  { j with spans := j.spans.dropLast }

end Journal

end ClusterReads
