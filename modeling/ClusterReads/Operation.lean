import ClusterReads.Keyed
import ClusterReads.Spelled

/-!
# Read operations

The thirteen reads of the store and the seven capabilities they belong to.
-/
namespace ClusterReads

/-- A family of records that one delegate answers for. -/
inductive Capability where
  | scheduler
  | job
  | task
  | lock
  | quota
  | attribute
  | deploy
  deriving DecidableEq, Repr, Inhabited

instance : Spelled Capability where
  all := [.scheduler, .job, .task, .lock, .quota, .attribute, .deploy]
  name
    | .scheduler => "SchedulerStore"
    | .job => "JobStore"
    | .task => "TaskStore"
    | .lock => "LockStore"
    | .quota => "QuotaStore"
    | .attribute => "AttributeStore"
    | .deploy => "DeployStore"
  mem_all a := by cases a <;> decide
  name_injective a b := by cases a <;> cases b <;> decide

inductive Operation where
  | fetchFrameworkId
  | fetchJobs
  | fetchJob
  | fetchManagerIds
  | fetchTasks
  | fetchLocks
  | fetchLock
  | fetchQuotas
  | fetchQuota
  | getHostAttributes
  | getAllHostAttributes
  | getDeploys
  | getDeploy
  deriving DecidableEq, Repr, Inhabited

namespace Operation

instance : Spelled Operation where
  all := [.fetchFrameworkId, .fetchJobs, .fetchJob, .fetchManagerIds, .fetchTasks, .fetchLocks, .fetchLock,
    .fetchQuotas, .fetchQuota, .getHostAttributes, .getAllHostAttributes, .getDeploys, .getDeploy]
  name
    | .fetchFrameworkId => "fetch_framework_id"
    | .fetchJobs => "fetch_jobs"
    | .fetchJob => "fetch_job"
    | .fetchManagerIds => "fetch_manager_ids"
    | .fetchTasks => "fetch_tasks"
    | .fetchLocks => "fetch_locks"
    | .fetchLock => "fetch_lock"
    | .fetchQuotas => "fetch_quotas"
    | .fetchQuota => "fetch_quota"
    | .getHostAttributes => "get_host_attributes"
    | .getAllHostAttributes => "get_all_host_attributes"
    | .getDeploys => "get_deploys"
    | .getDeploy => "get_deploy"
  mem_all a := by cases a <;> decide
  name_injective a b := by cases a <;> cases b <;> decide

/-- All operations in their order. -/
def all : List Operation :=
  Spelled.all

/-- The operation as it is written in names of methods, metrics and settings. -/
def name (o : Operation) : String :=
  Spelled.name o

instance : Ord Operation where
  compare := compareOn (·.ctorIdx)

instance : Std.TransOrd Operation :=
  inferInstanceAs (Std.TransCmp (compareOn Operation.ctorIdx))

instance : Std.LawfulEqOrd Operation where
  eq_of_compare {a b} h := by
    have h : compare a.ctorIdx b.ctorIdx = .eq := h
    rw [Std.LawfulEqOrd.compare_eq_iff_eq] at h
    revert h
    cases a <;> cases b <;> decide

/-- The capability that owns an operation. -/
def capability : Operation → Capability
  | .fetchFrameworkId => .scheduler
  | .fetchJobs | .fetchJob | .fetchManagerIds => .job
  | .fetchTasks => .task
  | .fetchLocks | .fetchLock => .lock
  | .fetchQuotas | .fetchQuota => .quota
  | .getHostAttributes | .getAllHostAttributes => .attribute
  | .getDeploys | .getDeploy => .deploy

/-- The operation of a name, or why there is none. -/
def parse (s : String) : Except String Operation :=
  match (Spelled.ofName? s : Option Operation) with
  | some o => .ok o
  | none => .error ("Unknown store operation: " ++ s)

end Operation

end ClusterReads
