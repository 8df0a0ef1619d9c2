import ClusterReads.Fault
import ClusterReads.Record.Job

/-!
# Resources

Amounts of processor, memory and disk: what a task takes and what a role may use.
-/
namespace ClusterReads

structure Resources where
  numCpus : Float
  ramMb : UInt64
  diskMb : UInt64
  deriving BEq, Repr, Inhabited

namespace Resources

def zero : Resources :=
  ⟨0, 0, 0⟩

/-- What one task of a template takes. -/
def ofTask (t : TaskConfig) : Resources :=
  ⟨t.numCpus, t.ramMb, t.diskMb⟩

/-- The sum in each kind. -/
def add (a b : Resources) : Except Fault Resources := do
  let ramMb ← addWords a.ramMb b.ramMb
  let diskMb ← addWords a.diskMb b.diskMb
  return ⟨a.numCpus + b.numCpus, ramMb, diskMb⟩

/-- At most the limit in each kind. -/
def fitsWithin (a limit : Resources) : Bool :=
  a.numCpus ≤ limit.numCpus && a.ramMb ≤ limit.ramMb && a.diskMb ≤ limit.diskMb

end Resources

end ClusterReads
