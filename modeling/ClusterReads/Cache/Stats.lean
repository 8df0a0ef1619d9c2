import ClusterReads.Fault

/-!
# Cache statistics

Counts of what a cache did, and the share of reads that were hits.
-/
namespace ClusterReads

structure CacheStats where
  hits : Nat
  misses : Nat
  sets : Nat
  deletes : Nat
  evictions : Nat
  /-- Failures that users of the cache saw. -/
  errors : Nat
  deriving DecidableEq, Repr

/-- One count divided by another in doubles; zero when nothing was counted. -/
def ratio (part whole : UInt64) : Float :=
  if whole = 0 then 0 else part.toFloat / whole.toFloat

namespace CacheStats

def zero : CacheStats :=
  ⟨0, 0, 0, 0, 0, 0⟩

instance : Inhabited CacheStats := ⟨zero⟩

/-- The share of hits among all reads. -/
def hitRate (s : CacheStats) : Except Fault Float := do
  let total ← addWords s.hits.toUInt64 s.misses.toUInt64
  return ratio s.hits.toUInt64 total

/-- What the hits leave of one. -/
def missRate (s : CacheStats) : Except Fault Float :=
  (1 - ·) <$> s.hitRate

end CacheStats

end ClusterReads
