import ClusterReads.Json.Codec
import ClusterReads.Operation
import ClusterReads.Query
import ClusterReads.Record.Deploy
import ClusterReads.Record.Host
import ClusterReads.Record.Lock
import ClusterReads.Record.Resources
import ClusterReads.Record.Task

/-!
# Records as JSON

The field names of every record, in the order in which they are written.
-/
namespace ClusterReads

open JsonCodec

/-! ## Enumerations -/

instance : JsonCodec Operation where
  encode := encodeName
  decode := decodeName

instance : JsonCodec ScheduleStatus where
  encode := encodeName
  decode := decodeName

instance : JsonCodec MaintenanceMode where
  encode := encodeName
  decode := decodeName

instance : JsonCodec CollisionPolicy where
  encode := encodeName
  decode := decodeName

/-! ## Jobs -/

def JobKey.fieldNames : List String :=
  ["role", "environment", "name"]

instance : JsonCodec JobKey where
  encode k := .record JobKey.fieldNames [encode k.role, encode k.environment, encode k.name]
  decode j := do
    match ← fields? JobKey.fieldNames j with
    | [role, environment, name] => return ⟨← field role, ← field environment, ← field name⟩
    | _ => none

def Identity.fieldNames : List String :=
  ["role", "user"]

instance : JsonCodec Identity where
  encode i := .record Identity.fieldNames [encode i.role, encode i.user]
  decode j := do
    match ← fields? Identity.fieldNames j with
    | [role, user] => return ⟨← field role, ← field user⟩
    | _ => none

namespace ConstraintKind

/-- The member that says which kind follows. -/
def tagName : String :=
  "type"

def valueNames : List String :=
  ["negated", "values"]

def limitNames : List String :=
  ["limit"]

/-- The kind of a tag, from the members or items beside it. -/
def ofTagged? (tag : String) (j : Json) : Option ConstraintKind :=
  match tag with
  | "value" => do
    match ← fields? valueNames j with
    | [negated, values] => return .value (← field negated) (← field values)
    | _ => none
  | "limit" => do
    match ← fields? limitNames j with
    | [count] => return .limit (← field count)
    | _ => none
  | _ => none

/-- Tagged by a member, or by the first item; all that is beside the tag has to be representable. -/
instance : JsonCodec ConstraintKind where
  encode
    | .value negated values =>
      .record (tagName :: valueNames) [Json.text "value", encode negated, encode values]
    | .limit count => .record (tagName :: limitNames) [Json.text "limit", encode count]
  decode
    | .array (.string (some tag) :: items) => do
      guard (Json.array items).isRepresentable
      ofTagged? tag (.array items)
    | .object members => do
      guard (Json.object members).isRepresentable
      match ← fields? [tagName] (.object members) with
      | [some (.string (some tag))] => ofTagged? tag (.object members)
      | _ => none
    | _ => none

end ConstraintKind

def Constraint.fieldNames : List String :=
  ["name", "kind"]

instance : JsonCodec Constraint where
  encode c := .record Constraint.fieldNames [encode c.name, encode c.kind]
  decode j := do
    match ← fields? Constraint.fieldNames j with
    | [name, kind] => return ⟨← field name, ← field kind⟩
    | _ => none

def TaskConfig.fieldNames : List String :=
  ["job", "owner", "is_service", "num_cpus", "ram_mb", "disk_mb", "priority", "max_task_failures",
    "production", "constraints", "contact_email"]

instance : JsonCodec TaskConfig where
  encode t := .record TaskConfig.fieldNames
    [encode t.job, encode t.owner, encode t.isService, encode t.numCpus, encode t.ramMb, encode t.diskMb,
      encode t.priority, encode t.maxTaskFailures, encode t.production, encode t.constraints,
      encode t.contactEmail]
  decode j := do
    match ← fields? TaskConfig.fieldNames j with
    | [job, owner, isService, numCpus, ramMb, diskMb, priority, maxTaskFailures, production, constraints,
        contactEmail] =>
      return ⟨← field job, ← field owner, ← field isService, ← field numCpus, ← field ramMb,
        ← field diskMb, ← field priority, ← field maxTaskFailures, ← field production,
        ← field constraints, ← field contactEmail⟩
    | _ => none

def JobConfiguration.fieldNames : List String :=
  ["key", "owner", "task_config", "instance_count", "cron_schedule", "cron_collision_policy"]

instance : JsonCodec JobConfiguration where
  encode c := .record JobConfiguration.fieldNames
    [encode c.key, encode c.owner, encode c.taskConfig, encode c.instanceCount, encode c.cronSchedule,
      encode c.collisionPolicy]
  decode j := do
    match ← fields? JobConfiguration.fieldNames j with
    | [key, owner, taskConfig, instanceCount, cronSchedule, collisionPolicy] =>
      return ⟨← field key, ← field owner, ← field taskConfig, ← field instanceCount,
        ← field cronSchedule, ← field collisionPolicy⟩
    | _ => none

/-! ## Tasks -/

def TaskEvent.fieldNames : List String :=
  ["timestamp", "status", "message", "scheduler"]

instance : JsonCodec TaskEvent where
  encode e := .record TaskEvent.fieldNames
    [encode e.timestamp, encode e.status, encode e.message, encode e.scheduler]
  decode j := do
    match ← fields? TaskEvent.fieldNames j with
    | [timestamp, status, message, scheduler] =>
      return ⟨← field timestamp, ← field status, ← field message, ← field scheduler⟩
    | _ => none

def AssignedTask.fieldNames : List String :=
  ["task_id", "slave_id", "slave_host", "task", "assigned_ports", "instance_id"]

instance : JsonCodec AssignedTask where
  encode t := .record AssignedTask.fieldNames
    [encode t.taskId, encode t.slaveId, encode t.slaveHost, encode t.task, encode t.assignedPorts,
      encode t.instanceId]
  decode j := do
    match ← fields? AssignedTask.fieldNames j with
    | [taskId, slaveId, slaveHost, task, assignedPorts, instanceId] =>
      return ⟨← field taskId, ← field slaveId, ← field slaveHost, ← field task, ← field assignedPorts,
        ← field instanceId⟩
    | _ => none

def ScheduledTask.fieldNames : List String :=
  ["assigned_task", "status", "failure_count", "task_events", "ancestor_id"]

instance : JsonCodec ScheduledTask where
  encode t := .record ScheduledTask.fieldNames
    [encode t.assigned, encode t.status, encode t.failureCount, encode t.events, encode t.ancestorId]
  decode j := do
    match ← fields? ScheduledTask.fieldNames j with
    | [assigned, status, failureCount, events, ancestorId] =>
      return ⟨← field assigned, ← field status, ← field failureCount, ← field events,
        ← field ancestorId⟩
    | _ => none

def TaskQuery.fieldNames : List String :=
  ["role", "environment", "job_name", "task_ids", "statuses", "instance_ids", "slave_hosts"]

instance : JsonCodec TaskQuery where
  encode q := .record TaskQuery.fieldNames
    [encode q.role, encode q.environment, encode q.jobName, encode q.taskIds, encode q.statuses,
      encode q.instanceIds, encode q.slaveHosts]
  decode j := do
    match ← fields? TaskQuery.fieldNames j with
    | [role, environment, jobName, taskIds, statuses, instanceIds, slaveHosts] =>
      return ⟨← field role, ← field environment, ← field jobName, ← field taskIds, ← field statuses,
        ← field instanceIds, ← field slaveHosts⟩
    | _ => none

/-! ## Locks, resources, hosts and deploys -/

/-- The member that names a lock on a job. -/
def LockKey.jobName : String :=
  "job"

instance : JsonCodec LockKey where
  encode
    | .job key => .record [LockKey.jobName] [encode key]
  decode
    | .object [(some "job", j)] => (decode j).map .job
    | _ => none

def Lock.fieldNames : List String :=
  ["key", "token", "user", "timestamp", "message"]

instance : JsonCodec Lock where
  encode l := .record Lock.fieldNames
    [encode l.key, encode l.token, encode l.user, encode l.timestamp, encode l.message]
  decode j := do
    match ← fields? Lock.fieldNames j with
    | [key, token, user, timestamp, message] =>
      return ⟨← field key, ← field token, ← field user, ← field timestamp, ← field message⟩
    | _ => none

def Resources.fieldNames : List String :=
  ["num_cpus", "ram_mb", "disk_mb"]

instance : JsonCodec Resources where
  encode r := .record Resources.fieldNames [encode r.numCpus, encode r.ramMb, encode r.diskMb]
  decode j := do
    match ← fields? Resources.fieldNames j with
    | [numCpus, ramMb, diskMb] => return ⟨← field numCpus, ← field ramMb, ← field diskMb⟩
    | _ => none

def Attribute.fieldNames : List String :=
  ["name", "values"]

instance : JsonCodec Attribute where
  encode a := .record Attribute.fieldNames [encode a.name, encode a.values]
  decode j := do
    match ← fields? Attribute.fieldNames j with
    | [name, values] => return ⟨← field name, ← field values⟩
    | _ => none

def HostAttributes.fieldNames : List String :=
  ["host", "attributes", "mode", "slave_id"]

instance : JsonCodec HostAttributes where
  encode h := .record HostAttributes.fieldNames
    [encode h.host, encode h.attributes, encode h.mode, encode h.slaveId]
  decode j := do
    match ← fields? HostAttributes.fieldNames j with
    | [host, attributes, mode, slaveId] =>
      return ⟨← field host, ← field attributes, ← field mode, ← field slaveId⟩
    | _ => none

def Deploy.fieldNames : List String :=
  ["deploy_id", "description", "artifact", "created_by", "created_at"]

instance : JsonCodec Deploy where
  encode d := .record Deploy.fieldNames
    [encode d.deployId, encode d.description, encode d.artifact, encode d.createdBy,
      encode d.createdAt]
  decode j := do
    match ← fields? Deploy.fieldNames j with
    | [deployId, description, artifact, createdBy, createdAt] =>
      return ⟨← field deployId, ← field description, ← field artifact, ← field createdBy,
        ← field createdAt⟩
    | _ => none

end ClusterReads
