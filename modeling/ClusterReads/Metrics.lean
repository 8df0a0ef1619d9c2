import ClusterReads.Operation

/-!
# Metrics

Counters and histograms by operation, as the list of samples that were reported to them.
-/
namespace ClusterReads

inductive Metric where
  | calls
  | durations
  | failures
  deriving DecidableEq, Repr

namespace Metric

def name : Metric → String
  | .calls => "storage_operations_total"
  | .durations => "storage_operation_duration_seconds"
  | .failures => "storage_operation_errors_total"

/-- Whether single samples are kept, or only their number. -/
def kind : Metric → String
  | .durations => "histogram"
  | .calls | .failures => "counter"

end Metric

/-- One count or measurement. -/
structure Sample where
  metric : Metric
  operation : Operation
  deriving DecidableEq, Repr

/-- The series a sample belongs to, with its labels. -/
def Sample.series (s : Sample) : String :=
  s.metric.kind ++ " " ++ s.metric.name ++ "\x7bstore=" ++ Spelled.name s.operation.capability ++
    ",operation=" ++ s.operation.name ++ "\x7d"

/-- The number of samples of each series. -/
def countSeries (samples : List Sample) : SortedMap String Nat :=
  samples.foldl (fun m s => m.put s.series ((m.lookup? s.series).getD 0 + 1)) .empty

end ClusterReads
