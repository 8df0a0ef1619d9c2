import ClusterReads.Store

/-!
# The instrumentation layer

Every call runs in a span of its own and is timed. Counts, durations and slow calls are kept by operation,
and reported as metrics if wanted. The answer is passed on as it is.
-/
namespace ClusterReads

/-- What is known about the calls of one operation; durations are in nanoseconds. -/
structure OperationStats where
  calls : Nat
  errors : Nat
  slowCalls : Nat
  total : Nat
  longest : Nat
  deriving DecidableEq, Repr

namespace OperationStats

def zero : OperationStats :=
  ⟨0, 0, 0, 0, 0⟩

instance : Inhabited OperationStats := ⟨zero⟩

/-- The largest duration that a word of nanoseconds can hold. -/
def maxAverage : Nat :=
  UInt64.size - 1

/-- The mean duration, rounded down to a nanosecond; zero without calls. -/
def average (s : OperationStats) : Nat :=
  min (s.total / s.calls) maxAverage

/-- The share of calls that failed. -/
def errorRate (s : OperationStats) : Float :=
  if s.calls = 0 then 0 else s.errors.toUInt64.toFloat / s.calls.toUInt64.toFloat

/-- One more call. -/
def add (s : OperationStats) (elapsed : Nat) (failed slow : Bool) : OperationStats :=
  { calls := s.calls + 1
    errors := s.errors + failed.toNat
    slowCalls := s.slowCalls + slow.toNat
    total := s.total + elapsed
    longest := max s.longest elapsed }

end OperationStats

/-- The statistics of the operations that were called. -/
abbrev InstrumentationState :=
  SortedMap Operation OperationStats

namespace Instrumentation

variable {ρ : Type}

structure Settings where
  /-- The duration in nanoseconds from which a call is slow. -/
  slowFrom : Nat
  reportsMetrics : Bool
  deriving DecidableEq, Repr

def statsOf (s : InstrumentationState) (o : Operation) : OperationStats :=
  (s.lookup? o).getD .zero

/-- What one call adds to the metrics. -/
def samples (o : Operation) (failed : Bool) : List Sample :=
  [⟨.calls, o⟩, ⟨.durations, o⟩] ++ if failed then [⟨.failures, o⟩] else []

/-- Whole milliseconds. -/
def millis (nanos : Nat) : Nat :=
  nanos / 1000000

/-- The warning about a slow call. -/
def warnSlow (o : Operation) (elapsed slowFrom : Nat) : Act InstrumentationState Unit :=
  Act.log .warn .instrumentation "Slow storage read"
    [("store", .text (Spelled.name o.capability)), ("operation", .text o.name),
      ("elapsed_ms", .number (millis elapsed)), ("threshold_ms", .number (millis slowFrom))]

/-- Enters a call into the books. -/
def record (settings : Settings) (o : Operation) (elapsed : Nat) (failed : Bool) :
    Act InstrumentationState Unit := do
  let slow := decide (settings.slowFrom ≤ elapsed)
  if settings.reportsMetrics then
    Act.change fun env => { env with samples := env.samples ++ samples o failed }
  if slow then warnSlow o elapsed settings.slowFrom
  Act.modify fun s => s.put o ((statsOf s o).add elapsed failed slow)

/-- A result that is an error. -/
def isError {α : Type} : StoreResult α → Bool
  | .ok _ => false
  | .error _ => true

/-- The operation as which a call is observed. -/
def label : Call → Operation
  | .frameworkId => .fetchFrameworkId
  | .jobs _ => .fetchJobs
  | .job _ _ => .fetchJob
  | .managerIds => .fetchManagerIds
  | .tasks _ => .fetchTasks
  | .locks => .fetchLocks
  | .lock _ => .fetchLock
  | .quotas => .fetchQuotas
  | .quota _ => .fetchQuota
  | .host _ => .getHostAttributes
  | .hosts => .getAllHostAttributes
  | .deploys => .getDeploys
  | .deploy _ => .getDeploy

/-- Times every call. -/
def layer (settings : Settings) (inner : Store ρ) : Store (InstrumentationState × ρ) := fun c =>
  Act.within c.operation.name do
    let start ← Act.now
    let result ← (inner c).onSnd
    let stop ← Act.now
    (record settings (label c) (stop - start) (isError result)).onFst
    return result

end Instrumentation

end ClusterReads
