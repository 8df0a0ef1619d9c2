import ClusterReads.Distinct
import ClusterReads.Operation
import ClusterReads.Query
import ClusterReads.Record.Deploy
import ClusterReads.Record.Host
import ClusterReads.Record.Lock
import ClusterReads.Record.Resources
import ClusterReads.StoreError

/-!
# Calls

A call is a read operation with its arguments; it fixes the type of the answer.
-/
namespace ClusterReads

inductive Call where
  | frameworkId
  | jobs (manager : String)
  | job (manager : String) (key : JobKey)
  | managerIds
  | tasks (query : TaskQuery)
  | locks
  | lock (key : LockKey)
  | quotas
  | quota (role : String)
  | host (name : String)
  | hosts
  | deploys
  | deploy (id : String)
  deriving DecidableEq, Repr

namespace Call

/-- The operation that is called. -/
def operation : Call → Operation
  | .frameworkId => .fetchFrameworkId
  | .jobs _ => .fetchJobs
  | .job _ _ => .fetchJob
  | .managerIds => .fetchManagerIds
  | .tasks _ => .fetchTasks
  | .locks => .fetchLocks
  | .lock _ => .fetchLock
  | .quotas => .fetchQuotas
  | .quota _ => .fetchQuota
  | .host _ => .getHostAttributes
  | .hosts => .getAllHostAttributes
  | .deploys => .getDeploys
  | .deploy _ => .getDeploy

/-- What a call that succeeds answers. A lookup by key may find nothing, but for a deploy, whose absence
is an error. -/
abbrev Answer : Call → Type
  | .frameworkId => Option String
  | .jobs _ => List JobConfiguration
  | .job _ _ => Option JobConfiguration
  | .managerIds => SortedSet String
  | .tasks _ => TaskSet
  | .locks => Distinct Lock
  | .lock _ => Option Lock
  | .quotas => SortedMap String Resources
  | .quota _ => Option Resources
  | .host _ => Option HostAttributes
  | .hosts => Distinct HostAttributes
  | .deploys => Distinct Deploy
  | .deploy _ => Deploy

/-- The answer says that nothing is there under the key. -/
def isAbsent : (c : Call) → c.Answer → Bool
  | .frameworkId, a => a.isNone
  | .job _ _, a => a.isNone
  | .lock _, a => a.isNone
  | .quota _, a => a.isNone
  | .host _, a => a.isNone
  | .jobs _, _ | .managerIds, _ | .tasks _, _ | .locks, _ | .quotas, _ | .hosts, _ | .deploys, _
  | .deploy _, _ => false

/-- The key a call is scoped to, as text. -/
def subject? : Call → Option String
  | .jobs manager => some manager
  | .job manager key => some (manager ++ ":" ++ key.text)
  | .tasks query => query.jobKey?.map JobKey.text
  | .lock key => some key.text
  | .quota role => some role
  | .host name => some name
  | .deploy id => some id
  | .frameworkId | .managerIds | .locks | .quotas | .hosts | .deploys => none

end Call

abbrev StoreResult (α : Type) :=
  Except StoreError α

/-- One result for every call. -/
abbrev Answers :=
  (c : Call) → StoreResult c.Answer

end ClusterReads
