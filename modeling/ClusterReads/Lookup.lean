import ClusterReads.Store

/-!
# Derived reads

Common questions that take one or several calls. Each call sees the store as it is then.
-/
namespace ClusterReads
namespace Store

variable {σ : Type}

/-- One task by its identity. -/
def task (s : Store σ) (id : String) : Act σ (StoreResult (Option ScheduledTask)) := do
  let result ← s (.tasks (.taskScoped [id]))
  return result.map fun (tasks : TaskSet) => tasks.get? id

/-- The tasks of a job that are in an active state. -/
def activeTasks (s : Store σ) (job : JobKey) : Act σ (StoreResult TaskSet) :=
  s (.tasks (TaskQuery.jobScoped job).active)

/-- The jobs of each manager of a list in turn; the first error ends it. -/
def jobsOfAll (s : Store σ) : List String → Act σ (StoreResult (List (String × JobConfiguration)))
  | [] => return .ok []
  | manager :: rest => do
    match ← s (.jobs manager) with
    | .error e => return .error e
    | .ok jobs =>
      let others ← jobsOfAll s rest
      return others.map fun pairs => (jobs.map fun job => (manager, job)) ++ pairs

/-- Every job with its manager, by manager. -/
def allJobs (s : Store σ) : Act σ (StoreResult (List (String × JobConfiguration))) := do
  match ← s .managerIds with
  | .error e => return .error e
  | .ok (ids : SortedSet String) => jobsOfAll s ids.toList

/-- The first manager of a list that has a job of the key; a manager that fails ends the search. -/
def findJobIn (s : Store σ) (key : JobKey) :
    List String → Act σ (StoreResult (Option (String × JobConfiguration)))
  | [] => return .ok none
  | manager :: rest => do
    match ← s (.job manager key) with
    | .error e => return .error e
    | .ok (some job) => return .ok (some (manager, job))
    | .ok none => findJobIn s key rest

/-- The manager that owns a job, the first by name. -/
def findJob (s : Store σ) (key : JobKey) : Act σ (StoreResult (Option (String × JobConfiguration))) := do
  match ← s .managerIds with
  | .error e => return .error e
  | .ok (ids : SortedSet String) => findJobIn s key ids.toList

def jobLock (s : Store σ) (key : JobKey) : Act σ (StoreResult (Option Lock)) :=
  s (.lock (.job key))

/-- The hosts in a mode, by name. -/
def hostsInMode (s : Store σ) (mode : MaintenanceMode) : Act σ (StoreResult (List HostAttributes)) := do
  let result ← s .hosts
  return result.map fun (hosts : Distinct HostAttributes) =>
    (hosts.toList.filter fun h => h.mode == mode).mergeSort fun a b => (compare a.host b.host).isLE

/-- What a list of tasks takes in all, counting those in production. -/
def consumption (tasks : List ScheduledTask) : Except Fault Resources :=
  (tasks.filter fun t => t.assigned.task.production).foldlM
    (fun total t => total.add (.ofTask t.assigned.task)) .zero

/-- An order in which tasks are counted. A set of tasks has none of its own. -/
structure TaskOrder where
  list : TaskSet → List ScheduledTask
  perm : ∀ tasks, (list tasks).Perm tasks.toList

def TaskOrder.byId : TaskOrder :=
  ⟨Keyed.toList, fun _ => .refl _⟩

/-- What the active production tasks of a role take, counted in some order. -/
def consumedQuotaIn (order : TaskOrder) (s : Store σ) (role : String) :
    Act σ (StoreResult Resources) := do
  match ← s (.tasks (TaskQuery.roleScoped role).active) with
  | .error e => return .error e
  | .ok (tasks : TaskSet) =>
    let total ← Act.attempt (consumption (order.list tasks))
    return .ok total

/-- What the active production tasks of a role take. -/
def consumedQuota (s : Store σ) (role : String) : Act σ (StoreResult Resources) :=
  s.consumedQuotaIn .byId role

end Store
end ClusterReads
