import ClusterReads.Layer.Auditing
import ClusterReads.Layer.Instrumentation

/-!
# The operation of a call

Of which operation a call is, is laid down by a relation of its own. Main statements: the labels of the audit
trail, of the statistics and of the counts each name the one operation that was called.
-/
namespace ClusterReads
namespace Call

/-- The call is one of the operation. -/
inductive Performs : Call → Operation → Prop
  | frameworkId : Performs .frameworkId .fetchFrameworkId
  | jobs (manager : String) : Performs (.jobs manager) .fetchJobs
  | job (manager : String) (key : JobKey) : Performs (.job manager key) .fetchJob
  | managerIds : Performs .managerIds .fetchManagerIds
  | tasks (query : TaskQuery) : Performs (.tasks query) .fetchTasks
  | locks : Performs .locks .fetchLocks
  | lock (key : LockKey) : Performs (.lock key) .fetchLock
  | quotas : Performs .quotas .fetchQuotas
  | quota (role : String) : Performs (.quota role) .fetchQuota
  | host (name : String) : Performs (.host name) .getHostAttributes
  | hosts : Performs .hosts .getAllHostAttributes
  | deploys : Performs .deploys .getDeploys
  | deploy (id : String) : Performs (.deploy id) .getDeploy

variable {c : Call} {o o' : Operation}

theorem Performs.unique (h : c.Performs o) (h' : c.Performs o') : o = o' := by
  cases h <;> cases h' <;> rfl

theorem Performs.iff_eq (h : c.Performs o) : c.Performs o' ↔ o = o' :=
  ⟨h.unique, fun ho => ho ▸ h⟩

theorem performs_operation (c : Call) : c.Performs c.operation := by
  cases c <;> constructor

theorem Performs.eq_operation (h : c.Performs o) : o = c.operation :=
  h.unique c.performs_operation

theorem performs_iff_operation : c.Performs o ↔ c.operation = o :=
  c.performs_operation.iff_eq

instance (c : Call) (o : Operation) : Decidable (c.Performs o) :=
  decidable_of_iff _ performs_iff_operation.symm

end Call

namespace Auditing

theorem performs_label (c : Call) : c.Performs (label c) := by
  cases c <;> constructor

theorem performs_iff_label {c : Call} {o : Operation} : c.Performs o ↔ label c = o :=
  (performs_label c).iff_eq

end Auditing

namespace Instrumentation

theorem performs_label (c : Call) : c.Performs (label c) := by
  cases c <;> constructor

theorem performs_iff_label {c : Call} {o : Operation} : c.Performs o ↔ label c = o :=
  (performs_label c).iff_eq

end Instrumentation

namespace CallCounts

theorem performs_label (c : Call) : c.Performs (label c) := by
  cases c <;> constructor

theorem performs_iff_label {c : Call} {o : Operation} : c.Performs o ↔ label c = o :=
  (performs_label c).iff_eq

end CallCounts
end ClusterReads
