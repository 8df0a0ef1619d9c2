import ClusterReads.Act
import ClusterReads.Call

/-!
# Stores

A store answers calls by actions on its state. The plainest stores answer from a fixed table; others are
built from these by routing, counting and layers.
-/
namespace ClusterReads

/-- Answers calls on states `σ`. -/
def Store (σ : Type) :=
  (c : Call) → Act σ (StoreResult c.Answer)

namespace Store

variable {σ ρ : Type}

/-- The same answers at every call. -/
def fixed (answers : Answers) : Store σ :=
  fun c => pure (answers c)

/-- Every call fails with one error. -/
def failing (e : StoreError) : Store σ :=
  fixed fun _ => .error e

/-- A store beside other state. -/
def onFst (s : Store σ) : Store (σ × ρ) :=
  fun c => (s c).onFst

def onSnd (s : Store ρ) : Store (σ × ρ) :=
  fun c => (s c).onSnd

end Store

/-- How often each operation was called. -/
abbrev CallCounts :=
  SortedMap Operation Nat

namespace CallCounts

/-- The operation as which a call is counted. -/
def label : Call → Operation
  | .frameworkId => .fetchFrameworkId
  | .jobs _ => .fetchJobs
  | .job _ _ => .fetchJob
  | .managerIds => .fetchManagerIds
  | .tasks _ => .fetchTasks
  | .locks => .fetchLocks
  | .lock _ => .fetchLock
  | .quotas => .fetchQuotas
  | .quota _ => .fetchQuota
  | .host _ => .getHostAttributes
  | .hosts => .getAllHostAttributes
  | .deploys => .getDeploys
  | .deploy _ => .getDeploy

def of (counts : CallCounts) (o : Operation) : Nat :=
  (counts.lookup? o).getD 0

def add (counts : CallCounts) (o : Operation) : CallCounts :=
  counts.put o (counts.of o + 1)

def total (counts : CallCounts) : Nat :=
  counts.toList.foldl (fun n e => n + e.2) 0

end CallCounts

/-- Counts each call before passing it on. -/
def Store.counted {ρ : Type} (inner : Store ρ) : Store (CallCounts × ρ) := fun c => do
  (Act.modify fun counts => counts.add (CallCounts.label c)).onFst
  (inner c).onSnd

end ClusterReads
