import ClusterReads.Store

/-!
# The auditing layer

Every call of an audited operation leaves one event, with its subject and how it went. The answer is
passed on as it is.
-/
namespace ClusterReads
namespace Auditing

variable {ρ : Type}

/-- Where events go. -/
inductive Sink where
  /-- The audit trail in memory. -/
  | trail
  | journal
  deriving DecidableEq, Repr

/-- The operation as which a call is audited. -/
def label : Call → Operation
  | .frameworkId => .fetchFrameworkId
  | .jobs _ => .fetchJobs
  | .job _ _ => .fetchJob
  | .managerIds => .fetchManagerIds
  | .tasks _ => .fetchTasks
  | .locks => .fetchLocks
  | .lock _ => .fetchLock
  | .quotas => .fetchQuotas
  | .quota _ => .fetchQuota
  | .host _ => .getHostAttributes
  | .hosts => .getAllHostAttributes
  | .deploys => .getDeploys
  | .deploy _ => .getDeploy

/-- How a call went. -/
def outcome (c : Call) : StoreResult c.Answer → AuditOutcome
  | .ok a => if c.isAbsent a then .absent else .success
  | .error e => .failed e.message

/-- The event of a call and its result. -/
def event (c : Call) (result : StoreResult c.Answer) (timestamp : Timestamp) : AuditEvent :=
  ⟨label c, c.subject?, outcome c result, timestamp⟩

/-- Writes an event to the journal; a missing subject is written empty. -/
def logEvent (e : AuditEvent) : Act ρ Unit :=
  let operation := ("operation", LogValue.text e.operation.name)
  let subject := ("subject", LogValue.text (e.subject.getD ""))
  match e.outcome with
  | .failed message =>
    Act.log .warn .audit "Storage read failed" [operation, subject, ("error", .text message)]
  | .success => Act.log .info .audit "Storage read" [operation, subject, ("outcome", .text "Success")]
  | .absent => Act.log .info .audit "Storage read" [operation, subject, ("outcome", .text "Absent")]

def record (sink : Sink) (e : AuditEvent) : Act ρ Unit :=
  match sink with
  | .trail => Act.change fun env => { env with trail := env.trail.record e }
  | .journal => logEvent e

/-- Records the calls of the given operations. -/
def layer (sink : Sink) (operations : SortedSet Operation) (inner : Store ρ) : Store ρ := fun c => do
  let result ← inner c
  if operations.contains (label c) then
    let env ← Act.ask
    record sink (event c result env.clock.date)
  return result

end Auditing
end ClusterReads
