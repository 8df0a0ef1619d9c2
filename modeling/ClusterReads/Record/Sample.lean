import ClusterReads.Record.Deploy
import ClusterReads.Record.Host
import ClusterReads.Record.Lock
import ClusterReads.Record.Task

/-!
# Sample records

Records with plain contents, and the changes by which others are made of them.
-/
namespace ClusterReads

/-- The user in whose name samples are made. -/
def sampleUser : String :=
  "test_user"

/-- The agent that runs on a sample host. -/
def sampleAgent (host : String) : String :=
  host ++ "-slave"

namespace TaskConfig

def sample (job : JobKey) : TaskConfig where
  job := job
  owner := ⟨job.role, sampleUser⟩
  isService := true
  numCpus := 1
  ramMb := 1024
  diskMb := 2048
  priority := 0
  maxTaskFailures := 1
  production := false
  constraints := []
  contactEmail := none

def withResources (t : TaskConfig) (numCpus : Float) (ramMb diskMb : UInt64) : TaskConfig :=
  { t with numCpus, ramMb, diskMb }

end TaskConfig

namespace JobConfiguration

/-- A job of one instance that runs at once. -/
def sample (role environment name : String) : JobConfiguration :=
  let key : JobKey := ⟨role, environment, name⟩
  ⟨key, ⟨role, sampleUser⟩, .sample key, 1, none, default⟩

def withInstanceCount (j : JobConfiguration) (instanceCount : UInt32) : JobConfiguration :=
  { j with instanceCount }

def withCronSchedule (j : JobConfiguration) (schedule : String) : JobConfiguration :=
  { j with cronSchedule := some schedule }

def withCollisionPolicy (j : JobConfiguration) (collisionPolicy : CollisionPolicy) : JobConfiguration :=
  { j with collisionPolicy }

def withResources (j : JobConfiguration) (numCpus : Float) (ramMb diskMb : UInt64) : JobConfiguration :=
  { j with taskConfig := j.taskConfig.withResources numCpus ramMb diskMb }

/-- Adds a constraint behind the others. -/
def withConstraint (j : JobConfiguration) (c : Constraint) : JobConfiguration :=
  { j with taskConfig := { j.taskConfig with constraints := j.taskConfig.constraints ++ [c] } }

def inProduction (j : JobConfiguration) : JobConfiguration :=
  { j with taskConfig := { j.taskConfig with production := true } }

end JobConfiguration

namespace ScheduledTask

/-- A pending task without a history. -/
def sample (taskId : String) (job : JobKey) : ScheduledTask :=
  ⟨⟨taskId, none, none, .sample job, .ofList [], 0⟩, .pending, 0, [], none⟩

/-- Takes on a status and records when. -/
def withStatus (t : ScheduledTask) (status : ScheduleStatus) (now : Timestamp) : ScheduledTask :=
  { t with status, events := t.events ++ [⟨now, status, none, some "test-scheduler"⟩] }

def withInstanceId (t : ScheduledTask) (instanceId : UInt32) : ScheduledTask :=
  { t with assigned := { t.assigned with instanceId } }

def onHost (t : ScheduledTask) (host : String) : ScheduledTask :=
  { t with assigned := { t.assigned with slaveHost := some host, slaveId := some (sampleAgent host) } }

def withPort (t : ScheduledTask) (name : String) (port : UInt16) : ScheduledTask :=
  { t with assigned := { t.assigned with assignedPorts := t.assigned.assignedPorts.put name port } }

def withResources (t : ScheduledTask) (numCpus : Float) (ramMb diskMb : UInt64) : ScheduledTask :=
  { t with assigned := { t.assigned with task := t.assigned.task.withResources numCpus ramMb diskMb } }

def inProduction (t : ScheduledTask) : ScheduledTask :=
  { t with assigned := { t.assigned with task := { t.assigned.task with production := true } } }

def withFailureCount (t : ScheduledTask) (failureCount : UInt32) : ScheduledTask :=
  { t with failureCount }

def withAncestor (t : ScheduledTask) (ancestor : String) : ScheduledTask :=
  { t with ancestorId := some ancestor }

end ScheduledTask

namespace Lock

/-- A lock on a job, taken by the user of samples. -/
def sample (job : JobKey) (token : String) (now : Timestamp) : Lock :=
  .acquire (.job job) sampleUser token now

end Lock

namespace HostAttributes

/-- A host in service without attributes. -/
def sample (host : String) : HostAttributes :=
  ⟨host, [], .none, some (sampleAgent host)⟩

/-- Adds an attribute behind the others. -/
def withAttribute (h : HostAttributes) (name : String) (values : List String) : HostAttributes :=
  { h with attributes := h.attributes ++ [.ofList name values] }

def withMode (h : HostAttributes) (mode : MaintenanceMode) : HostAttributes :=
  { h with mode }

end HostAttributes

namespace Deploy

def sample (deployId : String) (now : Timestamp) : Deploy :=
  ⟨deployId, "deploy " ++ deployId, "scheduler-1.0.0.tar.gz", sampleUser, now⟩

end Deploy

end ClusterReads
