import ClusterReads.Store
import ClusterReads.Text.Blank

/-!
# The validation layer

Calls with malformed arguments are refused before they reach the store: blank texts, and job keys that are
not made of identifiers.
-/
namespace ClusterReads

/-- What is wrong with a call. -/
inductive Flaw where
  /-- A text of this name is blank. -/
  | blank (field : String)
  | malformedKey (key : JobKey)
  deriving DecidableEq, Repr

namespace Flaw

def message : Flaw → String
  | .blank field => field ++ " 不能为空"
  | .malformedKey key => "非法的作业键: " ++ key.text

/-- What the journal says of a refused call. -/
def note : Flaw → String
  | .blank field => "Rejected read with empty " ++ field
  | .malformedKey key => "Rejected read with malformed job key " ++ key.text

def error (f : Flaw) : StoreError :=
  .invalidArgument f.message

/-- A text has to be more than white space. -/
def ofText? (field value : String) : Option Flaw :=
  if Text.isBlank value then some (.blank field) else none

def ofKey? (key : JobKey) : Option Flaw :=
  if key.isValid then none else some (.malformedKey key)

end Flaw

/-- The first flaw of a query: role, environment, job name, then the hosts in their order. -/
def TaskQuery.flaw? (q : TaskQuery) : Option Flaw :=
  (q.role.bind (Flaw.ofText? "role"))
    <|> (q.environment.bind (Flaw.ofText? "environment"))
    <|> (q.jobName.bind (Flaw.ofText? "job_name"))
    <|> (q.slaveHosts.bind fun hosts => hosts.toList.findSome? (Flaw.ofText? "slave_host"))

/-- The first flaw of a call. -/
def Call.flaw? : Call → Option Flaw
  | .jobs manager => Flaw.ofText? "manager_id" manager
  | .job manager key => Flaw.ofText? "manager_id" manager <|> Flaw.ofKey? key
  | .tasks query => query.flaw?
  | .lock key => Flaw.ofKey? key.jobKey
  | .quota role => Flaw.ofText? "role" role
  | .host name => Flaw.ofText? "host" name
  | .deploy id => Flaw.ofText? "deploy_id" id
  | .frameworkId | .managerIds | .locks | .quotas | .hosts | .deploys => none

/-- Refuses calls with a flaw and passes on all others. -/
def Validation.layer {ρ : Type} (inner : Store ρ) : Store ρ := fun c =>
  match c.flaw? with
  | some flaw => do
    Act.log .debug .validation flaw.note
    return .error flaw.error
  | none => inner c

end ClusterReads
