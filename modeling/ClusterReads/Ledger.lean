import ClusterReads.Call

/-!
# The ledger

The records of a cluster held in memory, each under its own key. A read answers from the records held at
that moment.
-/
namespace ClusterReads

structure Ledger where
  frameworkId : Option String
  /-- The jobs of each manager that has any. -/
  jobs : SortedMap String (Keyed JobConfiguration.key)
  tasks : TaskSet
  locks : Keyed Lock.key
  quotas : SortedMap String Resources
  hosts : Keyed HostAttributes.host
  deploys : Keyed Deploy.deployId

namespace Ledger

def empty : Ledger :=
  ⟨none, .empty, .empty, .empty, .empty, .empty, .empty⟩

instance : Inhabited Ledger := ⟨empty⟩

/-! ## Writes -/

def setFrameworkId (l : Ledger) (id : String) : Ledger :=
  { l with frameworkId := some id }

/-- The jobs of a manager. -/
def jobsOf (l : Ledger) (manager : String) : Keyed JobConfiguration.key :=
  (l.jobs.lookup? manager).getD .empty

def saveJob (l : Ledger) (manager : String) (job : JobConfiguration) : Ledger :=
  { l with jobs := l.jobs.put manager ((l.jobsOf manager).insert job) }

/-- Removes a job; a manager that has none left is forgotten. -/
def removeJob (l : Ledger) (manager : String) (key : JobKey) : Bool × Ledger :=
  let rest := (l.jobsOf manager).erase key
  ((l.jobsOf manager).contains key,
    { l with jobs := if rest.isEmpty then l.jobs.erase manager else l.jobs.put manager rest })

def saveTasks (l : Ledger) (tasks : List ScheduledTask) : Ledger :=
  { l with tasks := l.tasks.insertAll tasks }

def deleteTasks (l : Ledger) (ids : List String) : Ledger :=
  { l with tasks := ids.foldl Keyed.erase l.tasks }

def saveLock (l : Ledger) (lock : Lock) : Ledger :=
  { l with locks := l.locks.insert lock }

def removeLock (l : Ledger) (key : LockKey) : Ledger :=
  { l with locks := l.locks.erase key }

def saveQuota (l : Ledger) (role : String) (quota : Resources) : Ledger :=
  { l with quotas := l.quotas.put role quota }

def removeQuota (l : Ledger) (role : String) : Ledger :=
  { l with quotas := l.quotas.erase role }

def saveHost (l : Ledger) (host : HostAttributes) : Ledger :=
  { l with hosts := l.hosts.insert host }

def saveDeploy (l : Ledger) (deploy : Deploy) : Ledger :=
  { l with deploys := l.deploys.insert deploy }

/-! ## Reads -/

/-- The managers that own a job. -/
def managerIds (l : Ledger) : SortedSet String :=
  .ofList ((l.jobs.toList.filter fun entry => !entry.2.isEmpty).map Prod.fst)

/-- The answer to every call. -/
def answers (l : Ledger) : Answers
  | .frameworkId => .ok l.frameworkId
  | .jobs manager => .ok (l.jobsOf manager).toList
  | .job manager key => .ok ((l.jobsOf manager).get? key)
  | .managerIds => .ok l.managerIds
  | .tasks query => .ok (l.tasks.filter query.admits)
  | .locks => .ok (.ofList l.locks.toList)
  | .lock key => .ok (l.locks.get? key)
  | .quotas => .ok l.quotas
  | .quota role => .ok (l.quotas.lookup? role)
  | .host name => .ok (l.hosts.get? name)
  | .hosts => .ok (.ofList l.hosts.toList)
  | .deploys => .ok (.ofList l.deploys.toList)
  | .deploy id =>
    match l.deploys.get? id with
    | some d => .ok d
    | none => .error (.deployNotFound id)

end Ledger

end ClusterReads
