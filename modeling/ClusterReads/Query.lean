import ClusterReads.Record.Task

/-!
# Task queries

A query is a conjunction of filters. A filter that is not set admits every task; one that is set to an
empty set admits none.
-/
namespace ClusterReads

structure TaskQuery where
  role : Option String
  environment : Option String
  jobName : Option String
  taskIds : Option (SortedSet String)
  statuses : Option (SortedSet ScheduleStatus)
  instanceIds : Option (SortedSet UInt32)
  slaveHosts : Option (SortedSet String)
  deriving DecidableEq, Repr

namespace TaskQuery

/-- Without filters. -/
def unscoped : TaskQuery :=
  ⟨none, none, none, none, none, none, none⟩

instance : Inhabited TaskQuery := ⟨unscoped⟩

/-! ## Refiners -/

def byRole (q : TaskQuery) (role : String) : TaskQuery :=
  { q with role := some role }

def byEnvironment (q : TaskQuery) (environment : String) : TaskQuery :=
  { q with environment := some environment }

def byJob (q : TaskQuery) (job : JobKey) : TaskQuery :=
  { q with role := some job.role, environment := some job.environment, jobName := some job.name }

def byTaskIds (q : TaskQuery) (ids : List String) : TaskQuery :=
  { q with taskIds := some (.ofList ids) }

def byStatus (q : TaskQuery) (statuses : List ScheduleStatus) : TaskQuery :=
  { q with statuses := some (.ofList statuses) }

def byInstances (q : TaskQuery) (instances : List UInt32) : TaskQuery :=
  { q with instanceIds := some (.ofList instances) }

/-- Adds a host to those already admitted. -/
def bySlave (q : TaskQuery) (host : String) : TaskQuery :=
  { q with slaveHosts := some ((q.slaveHosts.getD .empty).insert host) }

/-- Only tasks in an active state. -/
def active (q : TaskQuery) : TaskQuery :=
  q.byStatus ScheduleStatus.activeStates

/-- Only tasks in a terminal state. -/
def terminal (q : TaskQuery) : TaskQuery :=
  q.byStatus ScheduleStatus.terminalStates

/-! ## Queries of one filter -/

def roleScoped (role : String) : TaskQuery :=
  unscoped.byRole role

def environmentScoped (role environment : String) : TaskQuery :=
  (unscoped.byRole role).byEnvironment environment

def jobScoped (job : JobKey) : TaskQuery :=
  unscoped.byJob job

def taskScoped (ids : List String) : TaskQuery :=
  unscoped.byTaskIds ids

def instanceScoped (job : JobKey) (instances : List UInt32) : TaskQuery :=
  (jobScoped job).byInstances instances

def slaveScoped (host : String) : TaskQuery :=
  unscoped.bySlave host

def statusScoped (statuses : List ScheduleStatus) : TaskQuery :=
  unscoped.byStatus statuses

/-! ## Meaning -/

/-- The job a query is about, if all three parts of its key are set. -/
def jobKey? (q : TaskQuery) : Option JobKey :=
  match q.role, q.environment, q.jobName with
  | some role, some environment, some name => some ⟨role, environment, name⟩
  | _, _, _ => none

/-- The query is about exactly one job. -/
def isSingleJobScoped (q : TaskQuery) : Bool :=
  q.role.isSome && q.environment.isSome && q.jobName.isSome

/-- The task passes every filter that is set. A task without a host passes no host filter. -/
def admits (q : TaskQuery) (t : ScheduledTask) : Bool :=
  q.role.all (· == t.jobKey.role) &&
  q.environment.all (· == t.jobKey.environment) &&
  q.jobName.all (· == t.jobKey.name) &&
  q.taskIds.all (·.contains t.taskId) &&
  q.statuses.all (·.contains t.status) &&
  q.instanceIds.all (·.contains t.instanceId) &&
  q.slaveHosts.all fun hosts => t.slaveHost.any hosts.contains

end TaskQuery

end ClusterReads
