import ClusterReads.Record.Job
import ClusterReads.Time.Timestamp

/-!
# Tasks

A task is one instance of a job, bound to a host once it is assigned. Its status is active until it
reaches one of four terminal states.
-/
namespace ClusterReads

inductive ScheduleStatus where
  | init
  | throttled
  | pending
  | assigned
  | starting
  | running
  | finished
  | preempting
  | restarting
  | draining
  | failed
  | killed
  | killing
  | lost
  deriving DecidableEq, Repr, Inhabited

namespace ScheduleStatus

instance : Spelled ScheduleStatus where
  all := [.init, .throttled, .pending, .assigned, .starting, .running, .finished, .preempting, .restarting,
    .draining, .failed, .killed, .killing, .lost]
  name
    | .init => "INIT"
    | .throttled => "THROTTLED"
    | .pending => "PENDING"
    | .assigned => "ASSIGNED"
    | .starting => "STARTING"
    | .running => "RUNNING"
    | .finished => "FINISHED"
    | .preempting => "PREEMPTING"
    | .restarting => "RESTARTING"
    | .draining => "DRAINING"
    | .failed => "FAILED"
    | .killed => "KILLED"
    | .killing => "KILLING"
    | .lost => "LOST"
  mem_all a := by cases a <;> decide
  name_injective a b := by cases a <;> cases b <;> decide

/-- The order in which the states are declared. -/
instance : Ord ScheduleStatus where
  compare := compareOn (·.ctorIdx)

instance : Std.TransOrd ScheduleStatus :=
  inferInstanceAs (Std.TransCmp (compareOn ScheduleStatus.ctorIdx))

instance : Std.LawfulEqOrd ScheduleStatus where
  eq_of_compare {a b} h := by
    have h : compare a.ctorIdx b.ctorIdx = .eq := h
    rw [Std.LawfulEqOrd.compare_eq_iff_eq] at h
    revert h
    cases a <;> cases b <;> decide

def terminalStates : List ScheduleStatus :=
  [.finished, .failed, .killed, .lost]

def activeStates : List ScheduleStatus :=
  [.init, .throttled, .pending, .assigned, .starting, .running, .preempting, .restarting, .draining,
    .killing]

def isTerminal (s : ScheduleStatus) : Bool :=
  terminalStates.contains s

def isActive (s : ScheduleStatus) : Bool :=
  !s.isTerminal

theorem mem_activeStates (s : ScheduleStatus) : s ∈ activeStates ↔ s.isActive = true := by
  cases s <;> decide

theorem mem_terminalStates (s : ScheduleStatus) : s ∈ terminalStates ↔ s.isTerminal = true := by
  cases s <;> decide

end ScheduleStatus

/-- A change of a task's status. -/
structure TaskEvent where
  timestamp : Timestamp
  status : ScheduleStatus
  message : Option String
  scheduler : Option String
  deriving DecidableEq, Repr, Inhabited

/-- A task with the host it is bound to, if any. -/
structure AssignedTask where
  taskId : String
  slaveId : Option String
  slaveHost : Option String
  task : TaskConfig
  assignedPorts : SortedMap String UInt16
  instanceId : UInt32
  deriving BEq, Repr, Inhabited

structure ScheduledTask where
  assigned : AssignedTask
  status : ScheduleStatus
  failureCount : UInt32
  events : List TaskEvent
  ancestorId : Option String
  deriving BEq, Repr, Inhabited

namespace ScheduledTask

/-- The identity of a task, unique in a result. -/
def taskId (t : ScheduledTask) : String :=
  t.assigned.taskId

def jobKey (t : ScheduledTask) : JobKey :=
  t.assigned.task.job

def instanceId (t : ScheduledTask) : UInt32 :=
  t.assigned.instanceId

def slaveHost (t : ScheduledTask) : Option String :=
  t.assigned.slaveHost

/-- The later of two events; of two at the same moment the second. -/
def laterEvent : Option TaskEvent → TaskEvent → Option TaskEvent
  | none, e => some e
  | some latest, e => if (compare e.timestamp latest.timestamp).isGE then some e else some latest

/-- The event with the greatest timestamp; of several the one recorded last. -/
def latestEvent (t : ScheduledTask) : Option TaskEvent :=
  t.events.foldl laterEvent none

end ScheduledTask

/-- Tasks by their identity; of several with one identity the last. -/
abbrev TaskSet :=
  Keyed ScheduledTask.taskId

end ClusterReads
