import ClusterReads.Proofs.Record.Codec
import ClusterReads.Record.Sample

/-!
# Records written and read again

All types of values that are written as JSON, by kind. Main statement: a value of any of them comes back
from its text as it was if its doubles do, and so does a value that was read from any other text.
-/
namespace ClusterReads

open JsonCodec

/-- Values of a type come back from their text with their double, and are never read with a double that
is not finite. -/
structure Kept (α : Type) [JsonCodec α] (double? : α → Option Float) : Prop where
  read?_write : ∀ a : α, (∀ x ∈ double? a, Decimal.reread? x = some x) → read? α (write a) = some a
  isFinite : ∀ (j : Json) (a : α), decode j = some a → ∀ x ∈ double? a, x.isFinite = true

variable {α : Type} [JsonCodec α] {depth : Nat}

/-- A type without doubles. -/
theorem JsonCodec.Rereads.kept (h : Rereads α depth some) (hdepth : depth ≤ Json.maxDepth) :
    Kept α fun _ => none :=
  ⟨fun a _ => h.read?_write hdepth a, fun _ _ _ _ hx => by cases hx⟩

/-- A type with one double. -/
theorem JsonCodec.Rereads.kept_of {f : α → Option α} {double : α → Float} (h : Rereads α depth f)
    (hdepth : depth ≤ Json.maxDepth)
    (hself : ∀ a, Decimal.reread? (double a) = some (double a) → f a = some a)
    (hfinite : ∀ (j : Json) (a : α), decode j = some a → (double a).isFinite = true) :
    Kept α fun a => some (double a) := by
  refine ⟨fun a ha => ?_, fun j a ha x hx => ?_⟩
  · rw [h.read?_write hdepth a, hself a (ha (double a) rfl)]
  · obtain rfl := Option.some.inj hx
    exact hfinite j a ha

/-! ## Finite doubles -/

theorem isFinite_of_field {j? : Option Json} {x : Float} (h : field j? = some x) :
    x.isFinite = true := by
  cases j? with
  | none => cases h
  | some j =>
    cases j with
    | number l => exact Decimal.Literal.isFinite_of_scaled? h
    | null | bool | string | array | object | deep => cases h

theorem Resources.isFinite_of_decode {j : Json} {r : Resources} (h : decode j = some r) :
    r.numCpus.isFinite = true := by
  obtain ⟨fields, -, h⟩ := Option.bind_eq_some_iff.1 h
  split at h
  · obtain ⟨numCpus, hcpus, h⟩ := Option.bind_eq_some_iff.1 h
    obtain ⟨ramMb, -, h⟩ := Option.bind_eq_some_iff.1 h
    obtain ⟨diskMb, -, h⟩ := Option.bind_eq_some_iff.1 h
    obtain rfl := Option.some.inj h
    exact isFinite_of_field hcpus
  · cases h

theorem TaskConfig.isFinite_of_decode {j : Json} {t : TaskConfig} (h : decode j = some t) :
    t.numCpus.isFinite = true := by
  obtain ⟨fields, -, h⟩ := Option.bind_eq_some_iff.1 h
  split at h
  · simp only [Option.bind_eq_bind, Option.bind_eq_some_iff, Option.pure_def, Option.some.injEq] at h
    obtain ⟨job, -, owner, -, isService, -, numCpus, hcpus, h⟩ := h
    obtain ⟨ramMb, -, diskMb, -, priority, -, failures, -, production, -, constraints, -, h⟩ := h
    obtain ⟨email, -, rfl⟩ := h
    exact isFinite_of_field hcpus
  · cases h

/-- A template in a field is read as a template. -/
theorem TaskConfig.isFinite_of_field {j? : Option Json} {t : TaskConfig} (h : field j? = some t) :
    t.numCpus.isFinite = true := by
  cases j? with
  | none => cases h
  | some j => exact TaskConfig.isFinite_of_decode h

theorem JobConfiguration.isFinite_of_decode {j : Json} {c : JobConfiguration}
    (h : decode j = some c) : c.taskConfig.numCpus.isFinite = true := by
  obtain ⟨fields, -, h⟩ := Option.bind_eq_some_iff.1 h
  split at h
  · simp only [Option.bind_eq_bind, Option.bind_eq_some_iff, Option.pure_def, Option.some.injEq] at h
    obtain ⟨key, -, owner, -, taskConfig, htask, count, -, schedule, -, policy, -, rfl⟩ := h
    exact TaskConfig.isFinite_of_field htask
  · cases h

theorem AssignedTask.isFinite_of_decode {j : Json} {t : AssignedTask} (h : decode j = some t) :
    t.task.numCpus.isFinite = true := by
  obtain ⟨fields, -, h⟩ := Option.bind_eq_some_iff.1 h
  split at h
  · simp only [Option.bind_eq_bind, Option.bind_eq_some_iff, Option.pure_def, Option.some.injEq] at h
    obtain ⟨taskId, -, slaveId, -, slaveHost, -, task, htask, ports, -, instanceId, -, rfl⟩ := h
    exact TaskConfig.isFinite_of_field htask
  · cases h

theorem ScheduledTask.isFinite_of_decode {j : Json} {t : ScheduledTask} (h : decode j = some t) :
    t.assigned.task.numCpus.isFinite = true := by
  obtain ⟨fields, -, h⟩ := Option.bind_eq_some_iff.1 h
  split at h
  · next assigned? _ _ _ _ =>
    simp only [Option.bind_eq_bind, Option.bind_eq_some_iff, Option.pure_def, Option.some.injEq] at h
    obtain ⟨assigned, hassigned, status, -, count, -, events, -, ancestor, -, rfl⟩ := h
    cases assigned? with
    | none => cases hassigned
    | some j => exact AssignedTask.isFinite_of_decode hassigned
  · cases h

/-! ## Kinds of values -/

/-- The types of values that are written as JSON. -/
inductive RecordKind where
  | jobKey
  | identity
  | constraintKind
  | constraint
  | taskConfig
  | collisionPolicy
  | jobConfiguration
  | status
  | taskEvent
  | assignedTask
  | scheduledTask
  | taskQuery
  | lockKey
  | lock
  | resources
  | hostAttribute
  | mode
  | hostAttributes
  | deploy
  | operation
  | auditOutcome
  | auditEvent

namespace RecordKind

def Value : RecordKind → Type
  | jobKey => JobKey
  | identity => Identity
  | constraintKind => ConstraintKind
  | constraint => Constraint
  | taskConfig => TaskConfig
  | collisionPolicy => CollisionPolicy
  | jobConfiguration => JobConfiguration
  | status => ScheduleStatus
  | taskEvent => TaskEvent
  | assignedTask => AssignedTask
  | scheduledTask => ScheduledTask
  | taskQuery => TaskQuery
  | lockKey => LockKey
  | lock => Lock
  | resources => Resources
  | hostAttribute => Attribute
  | mode => MaintenanceMode
  | hostAttributes => HostAttributes
  | deploy => Deploy
  | operation => Operation
  | auditOutcome => AuditOutcome
  | auditEvent => AuditEvent

instance : (kind : RecordKind) → JsonCodec kind.Value
  | jobKey => inferInstanceAs (JsonCodec JobKey)
  | identity => inferInstanceAs (JsonCodec Identity)
  | constraintKind => inferInstanceAs (JsonCodec ConstraintKind)
  | constraint => inferInstanceAs (JsonCodec Constraint)
  | taskConfig => inferInstanceAs (JsonCodec TaskConfig)
  | collisionPolicy => inferInstanceAs (JsonCodec CollisionPolicy)
  | jobConfiguration => inferInstanceAs (JsonCodec JobConfiguration)
  | status => inferInstanceAs (JsonCodec ScheduleStatus)
  | taskEvent => inferInstanceAs (JsonCodec TaskEvent)
  | assignedTask => inferInstanceAs (JsonCodec AssignedTask)
  | scheduledTask => inferInstanceAs (JsonCodec ScheduledTask)
  | taskQuery => inferInstanceAs (JsonCodec TaskQuery)
  | lockKey => inferInstanceAs (JsonCodec LockKey)
  | lock => inferInstanceAs (JsonCodec Lock)
  | resources => inferInstanceAs (JsonCodec Resources)
  | hostAttribute => inferInstanceAs (JsonCodec Attribute)
  | mode => inferInstanceAs (JsonCodec MaintenanceMode)
  | hostAttributes => inferInstanceAs (JsonCodec HostAttributes)
  | deploy => inferInstanceAs (JsonCodec Deploy)
  | operation => inferInstanceAs (JsonCodec Operation)
  | auditOutcome => inferInstanceAs (JsonCodec AuditOutcome)
  | auditEvent => inferInstanceAs (JsonCodec AuditEvent)

/-- The processors in a value, the only double in any of them. -/
def numCpus? : (kind : RecordKind) → kind.Value → Option Float
  | taskConfig => fun t : TaskConfig => some t.numCpus
  | jobConfiguration => fun c : JobConfiguration => some c.taskConfig.numCpus
  | assignedTask => fun t : AssignedTask => some t.task.numCpus
  | scheduledTask => fun t : ScheduledTask => some t.assigned.task.numCpus
  | resources => fun r : Resources => some r.numCpus
  | _ => fun _ => none

theorem kept (kind : RecordKind) : Kept kind.Value kind.numCpus? := by
  cases kind with
  | jobKey => exact rereads_jobKey.kept (by decide)
  | identity => exact rereads_identity.kept (by decide)
  | constraintKind => exact rereads_constraintKind.kept (by decide)
  | constraint => exact rereads_constraint.kept (by decide)
  | taskConfig =>
    refine rereads_taskConfig.kept_of (by decide) (fun t ht => ?_)
      fun _ _ h => TaskConfig.isFinite_of_decode h
    rw [TaskConfig.reread?, ht, Option.map_some]
  | collisionPolicy => exact rereads_collisionPolicy.kept (by decide)
  | jobConfiguration =>
    refine rereads_jobConfiguration.kept_of (by decide) (fun c hc => ?_)
      fun _ _ h => JobConfiguration.isFinite_of_decode h
    rw [JobConfiguration.reread?, TaskConfig.reread?, hc, Option.map_some, Option.map_some]
  | status => exact rereads_status.kept (by decide)
  | taskEvent => exact rereads_taskEvent.kept (by decide)
  | assignedTask =>
    refine rereads_assignedTask.kept_of (by decide) (fun t ht => ?_)
      fun _ _ h => AssignedTask.isFinite_of_decode h
    rw [AssignedTask.reread?, TaskConfig.reread?, ht, Option.map_some, Option.map_some]
  | scheduledTask =>
    refine rereads_scheduledTask.kept_of (by decide) (fun t ht => ?_)
      fun _ _ h => ScheduledTask.isFinite_of_decode h
    rw [ScheduledTask.reread?, AssignedTask.reread?, TaskConfig.reread?, ht, Option.map_some,
      Option.map_some, Option.map_some]
  | taskQuery => exact rereads_taskQuery.kept (by decide)
  | lockKey => exact rereads_lockKey.kept (by decide)
  | lock => exact rereads_lock.kept (by decide)
  | resources =>
    refine rereads_resources.kept_of (by decide) (fun r hr => ?_)
      fun _ _ h => Resources.isFinite_of_decode h
    rw [Resources.reread?, hr, Option.map_some]
  | hostAttribute => exact rereads_attribute.kept (by decide)
  | mode => exact rereads_mode.kept (by decide)
  | hostAttributes => exact rereads_hostAttributes.kept (by decide)
  | deploy => exact rereads_deploy.kept (by decide)
  | operation => exact rereads_operation.kept (by decide)
  | auditOutcome => exact rereads_auditOutcome.kept (by decide)
  | auditEvent => exact rereads_auditEvent.kept (by decide)

/-- A value comes back from its text as it was, and so does a value that was read from any text, if its
finite double comes back. -/
theorem json_round_trip (kind : RecordKind) (v : kind.Value)
    (hreread : ∀ x ∈ kind.numCpus? v, x.isFinite = true → Decimal.reread? x = some x) :
    ((∀ x ∈ kind.numCpus? v, x.isFinite = true) → read? kind.Value (write v) = some v) ∧
      ∀ text, read? kind.Value text = some v →
        ∃ again, read? kind.Value (write v) = some again ∧ again = v ∧ write again = write v := by
  have hwrite : (∀ x ∈ kind.numCpus? v, x.isFinite = true) → read? kind.Value (write v) = some v :=
    fun hfinite => kind.kept.read?_write v fun x hx => hreread x hx (hfinite x hx)
  refine ⟨hwrite, fun text htext => ⟨v, ?_, rfl, rfl⟩⟩
  obtain ⟨j, -, hj⟩ := Option.bind_eq_some_iff.1 htext
  exact hwrite (kind.kept.isFinite j v hj)

/-- A task with four processors. -/
def fourCpuTask : ScheduledTask :=
  (ScheduledTask.sample "task" ⟨"www-data", "prod", "hello"⟩).withResources
    (Float.ofBits 4616189618054758400) 512 1024

/-- The task with four processors comes back, from its own text and from any other. -/
theorem json_round_trip_of_four_cpus :
    read? ScheduledTask (write fourCpuTask) = some fourCpuTask ∧
      ∃ again, read? ScheduledTask (write fourCpuTask) = some again ∧ again = fourCpuTask ∧
        write again = write fourCpuTask := by
  have hreread : ∀ x ∈ numCpus? .scheduledTask fourCpuTask, x.isFinite = true →
      Decimal.reread? x = some x := by
    rintro x hx -
    obtain rfl := Option.some.inj hx
    exact Decimal.reread?_four
  have hfinite : ∀ x ∈ numCpus? .scheduledTask fourCpuTask, x.isFinite = true := by
    intro x hx
    obtain rfl := Option.some.inj hx
    decide +kernel
  obtain ⟨hwritten, hread⟩ := json_round_trip .scheduledTask fourCpuTask hreread
  exact ⟨hwritten hfinite, hread (write fourCpuTask) (hwritten hfinite)⟩

end RecordKind
end ClusterReads
