import ClusterReads.Ledger
import ClusterReads.Proofs.Keyed
import ClusterReads.Proofs.Latest

/-!
# Histories of a ledger

A ledger is what a history of writes has made of an empty one. Each of its places holds one record at
most: the last that was put there, unless it was taken out again. Main statement: after every history,
the reads by key tell what stands in their places, and all other reads tell the same.
-/
namespace ClusterReads
namespace Ledger

/-! ## Writes and places -/

inductive Write where
  | setFrameworkId (id : String)
  | saveJob (manager : String) (job : JobConfiguration)
  | removeJob (manager : String) (key : JobKey)
  | saveTasks (tasks : List ScheduledTask)
  | deleteTasks (ids : List String)
  | saveLock (lock : Lock)
  | removeLock (key : LockKey)
  | saveQuota (role : String) (quota : Resources)
  | removeQuota (role : String)
  | saveHost (host : HostAttributes)
  | saveDeploy (deploy : Deploy)
  | clear

def apply (l : Ledger) : Write → Ledger
  | .setFrameworkId id => l.setFrameworkId id
  | .saveJob manager job => l.saveJob manager job
  | .removeJob manager key => (l.removeJob manager key).2
  | .saveTasks tasks => l.saveTasks tasks
  | .deleteTasks ids => l.deleteTasks ids
  | .saveLock lock => l.saveLock lock
  | .removeLock key => l.removeLock key
  | .saveQuota role quota => l.saveQuota role quota
  | .removeQuota role => l.removeQuota role
  | .saveHost host => l.saveHost host
  | .saveDeploy deploy => l.saveDeploy deploy
  | .clear => .empty

/-- The ledger that a history of writes leads to. -/
def after (history : List Write) : Ledger :=
  history.foldl apply .empty

/-- A place for one record at most. -/
inductive Shelf where
  | frameworkId
  | job (manager : String) (key : JobKey)
  | task (id : String)
  | lock (key : LockKey)
  | quota (role : String)
  | host (name : String)
  | deploy (id : String)

namespace Shelf

abbrev Record : Shelf → Type
  | .frameworkId => String
  | .job _ _ => JobConfiguration
  | .task _ => ScheduledTask
  | .lock _ => Lock
  | .quota _ => Resources
  | .host _ => HostAttributes
  | .deploy _ => Deploy

/-- A record belongs in the place of its own key. -/
def Fits : (s : Shelf) → s.Record → Prop
  | .job _ key, r => r.key = key
  | .task id, r => r.taskId = id
  | .lock key, r => r.key = key
  | .host name, r => r.host = name
  | .deploy id, r => r.deployId = id
  | .frameworkId, _ | .quota _, _ => True

/-- The read by key of a place tells what is in it, or that nothing is. A task is read by a query for
its identity. -/
def Tells (answers : Answers) : (s : Shelf) → Option s.Record → Prop
  | .frameworkId, o => answers .frameworkId = .ok o
  | .job manager key, o => answers (.job manager key) = .ok o
  | .task id, o => ∃ tasks : TaskSet,
      answers (.tasks (.taskScoped [id])) = .ok tasks ∧ tasks.get? id = o
  | .lock key, o => answers (.lock key) = .ok o
  | .quota role, o => answers (.quota role) = .ok o
  | .host name, o => answers (.host name) = .ok o
  | .deploy id, some r => answers (.deploy id) = .ok r
  | .deploy id, none => answers (.deploy id) = .error (.deployNotFound id)

end Shelf

/-- What is in a place. -/
def held? (l : Ledger) : (s : Shelf) → Option s.Record
  | .frameworkId => l.frameworkId
  | .job manager key => (l.jobsOf manager).get? key
  | .task id => l.tasks.get? id
  | .lock key => l.locks.get? key
  | .quota role => l.quotas.lookup? role
  | .host name => l.hosts.get? name
  | .deploy id => l.deploys.get? id

/-- What becomes of a place. -/
inductive Effect (α : Type) where
  | leaves
  | empties
  | puts (a : α)

namespace Effect

variable {α : Type}

def on : Effect α → Option α → Option α
  | .leaves, o => o
  | .empties, _ => none
  | .puts a, _ => some a

@[simp] theorem on_leaves (o : Option α) : (leaves : Effect α).on o = o := rfl

@[simp] theorem on_empties (o : Option α) : (empties : Effect α).on o = none := rfl

@[simp] theorem on_puts (a : α) (o : Option α) : (puts a).on o = some a := rfl

/-- An effect on one place alone. -/
def only (here : Prop) [Decidable here] (e : Effect α) : Effect α :=
  if here then e else .leaves

@[simp] theorem on_only (here : Prop) [Decidable here] (e : Effect α) (o : Option α) :
    (only here e).on o = if here then e.on o else o := by
  unfold only
  split <;> rfl

@[simp] theorem only_eq_puts_iff (here : Prop) [Decidable here] (e : Effect α) (a : α) :
    only here e = .puts a ↔ here ∧ e = .puts a := by
  unfold only
  split <;> simp [*]

end Effect

/-- What a write does to a place: a save puts its record in the place of the record's own key, and of
several tasks with one identity the last. -/
def Write.effect : Write → (s : Shelf) → Effect s.Record
  | .clear, _ => .empties
  | .setFrameworkId id, .frameworkId => .puts id
  | .saveJob manager job, .job m k => .only (manager = m ∧ job.key = k) (.puts job)
  | .removeJob manager key, .job m k => .only (manager = m ∧ key = k) .empties
  | .saveTasks tasks, .task id =>
    match tasks.reverse.find? fun task => task.taskId = id with
    | some task => .puts task
    | none => .leaves
  | .deleteTasks ids, .task id => .only (id ∈ ids) .empties
  | .saveLock lock, .lock k => .only (lock.key = k) (.puts lock)
  | .removeLock key, .lock k => .only (key = k) .empties
  | .saveQuota role quota, .quota r => .only (role = r) (.puts quota)
  | .removeQuota role, .quota r => .only (role = r) .empties
  | .saveHost host, .host name => .only (host.host = name) (.puts host)
  | .saveDeploy deploy, .deploy id => .only (deploy.deployId = id) (.puts deploy)
  | _, _ => .leaves

/-- A record was put in a place, and no later write has put another one there or emptied it. -/
def Stands (history : List Write) (s : Shelf) (r : s.Record) : Prop :=
  ∃ before w later, history = before ++ w :: later ∧ w.effect s = .puts r ∧
    ∀ w' ∈ later, w'.effect s = .leaves

/-! ## One write -/

theorem jobsOf_saveJob (l : Ledger) (manager m : String) (job : JobConfiguration) :
    (l.saveJob manager job).jobsOf m =
      if manager = m then (l.jobsOf m).insert job else l.jobsOf m := by
  simp only [jobsOf, saveJob, SortedMap.lookup?_put]
  by_cases h : manager = m
  · subst h
    simp
  · simp [h]

/-- A manager without jobs is forgotten, which leaves it without jobs. -/
theorem jobsOf_removeJob (l : Ledger) (manager m : String) (key : JobKey) :
    (l.removeJob manager key).2.jobsOf m =
      if manager = m then (l.jobsOf m).erase key else l.jobsOf m := by
  have hjobs : (l.removeJob manager key).2.jobs =
      if ((l.jobsOf manager).erase key).isEmpty = true then Keyed.erase l.jobs manager
      else l.jobs.put manager ((l.jobsOf manager).erase key) := rfl
  have hm : (l.jobs.lookup? m).getD .empty = l.jobsOf m := rfl
  rw [jobsOf, hjobs]
  by_cases hrest : ((l.jobsOf manager).erase key).isEmpty = true
  · have hempty : (l.jobsOf manager).erase key = .empty := Keyed.ext (List.isEmpty_iff.1 hrest)
    rw [if_pos hrest, SortedMap.lookup?_erase]
    by_cases h : manager = m
    · subst h
      simp [hempty]
    · simp [h, hm]
  · rw [if_neg hrest, SortedMap.lookup?_put]
    by_cases h : manager = m
    · subst h
      simp
    · simp [h, hm]

theorem get?_deleteTasks (ids : List String) (tasks : TaskSet) (id : String) :
    (ids.foldl Keyed.erase tasks).get? id = if id ∈ ids then none else tasks.get? id := by
  induction ids generalizing tasks with
  | nil => simp
  | cons first rest ih =>
    rw [List.foldl_cons, ih, Keyed.get?_erase]
    by_cases hrest : id ∈ rest
    · simp [hrest]
    · by_cases hfirst : first = id
      · simp [hfirst, Std.ReflCmp.compare_self]
      · simp [hrest, hfirst, Ne.symm hfirst]

theorem held?_apply (l : Ledger) (w : Write) (s : Shelf) :
    (l.apply w).held? s = (w.effect s).on (l.held? s) := by
  cases w with
  | setFrameworkId id => cases s <;> rfl
  | saveJob manager job =>
    cases s with
    | job m k =>
      simp only [apply, held?, Write.effect, jobsOf_saveJob]
      by_cases h : manager = m
      · simp [h, Keyed.get?_insert]
      · simp [h]
    | _ => rfl
  | removeJob manager key =>
    cases s with
    | job m k =>
      simp only [apply, held?, Write.effect, jobsOf_removeJob]
      by_cases h : manager = m
      · simp [h, Keyed.get?_erase]
      · simp [h]
    | _ => rfl
  | saveTasks tasks =>
    cases s with
    | task id =>
      simp only [apply, held?, Write.effect, saveTasks, Keyed.get?_insertAll]
      simp only [Std.LawfulEqCmp.compare_eq_iff_eq, beq_eq_decide]
      cases tasks.reverse.find? fun task => decide (task.taskId = id) <;> rfl
    | _ => rfl
  | deleteTasks ids =>
    cases s with
    | task id =>
      simp [apply, held?, Write.effect, deleteTasks, get?_deleteTasks]
    | _ => rfl
  | saveLock lock =>
    cases s with
    | lock k => simp [apply, held?, Write.effect, saveLock, Keyed.get?_insert]
    | _ => rfl
  | removeLock key =>
    cases s with
    | lock k => simp [apply, held?, Write.effect, removeLock, Keyed.get?_erase]
    | _ => rfl
  | saveQuota role quota =>
    cases s with
    | quota r =>
      simp [apply, held?, Write.effect, saveQuota, SortedMap.lookup?_put]
    | _ => rfl
  | removeQuota role =>
    cases s with
    | quota r =>
      simp [apply, held?, Write.effect, removeQuota, SortedMap.lookup?_erase]
    | _ => rfl
  | saveHost host =>
    cases s with
    | host name => simp [apply, held?, Write.effect, saveHost, Keyed.get?_insert]
    | _ => rfl
  | saveDeploy deploy =>
    cases s with
    | deploy id =>
      simp [apply, held?, Write.effect, saveDeploy, Keyed.get?_insert]
    | _ => rfl
  | clear => cases s <;> rfl

/-! ## Histories -/

theorem after_snoc (history : List Write) (w : Write) :
    after (history ++ [w]) = (after history).apply w := by
  simp [after]

theorem stands_iff_latest (history : List Write) (s : Shelf) (r : s.Record) :
    Stands history s r ↔
      Latest (fun w => w.effect s = .puts r) (fun w => w.effect s = .leaves) history := Iff.rfl

/-- What stands is what the last write has put, or what stood before and was left. -/
theorem stands_snoc_iff (history : List Write) (w : Write) (s : Shelf) (r : s.Record) :
    Stands (history ++ [w]) s r ↔
      w.effect s = .puts r ∨ (w.effect s = .leaves ∧ Stands history s r) := by
  simp only [stands_iff_latest, latest_snoc_iff]

/-- A place holds what stands in it. -/
theorem held?_after_eq_some_iff (history : List Write) (s : Shelf) (r : s.Record) :
    (after history).held? s = some r ↔ Stands history s r := by
  induction history using List.reverseRecOn with
  | nil =>
    have hempty : (after []).held? s = none := by cases s <;> rfl
    simp [hempty, stands_iff_latest, not_latest_nil]
  | append_singleton history w ih =>
    rw [after_snoc, held?_apply, stands_snoc_iff, ← ih]
    cases w.effect s <;> simp [Effect.on]

/-- A record that was put in a place belongs there. -/
theorem Write.fits_of_effect {w : Write} {s : Shelf} {r : s.Record} (h : w.effect s = .puts r) :
    s.Fits r := by
  cases s with
  | frameworkId | quota => trivial
  | task id =>
    cases w with
    | saveTasks tasks =>
      simp only [effect] at h
      split at h
      · next task hfind =>
        cases h
        have hid : r.taskId = id := by simpa using List.find?_some hfind
        exact hid
      · cases h
    | _ => simp [effect] at h
  | job manager key =>
    cases w <;> simp [effect] at h
    exact h.2 ▸ h.1.2
  | lock key =>
    cases w <;> simp [effect] at h
    exact h.2 ▸ h.1
  | host name =>
    cases w <;> simp [effect] at h
    exact h.2 ▸ h.1
  | deploy id =>
    cases w <;> simp [effect] at h
    exact h.2 ▸ h.1

theorem Stands.fits {history : List Write} {s : Shelf} {r : s.Record} (h : Stands history s r) :
    s.Fits r := by
  obtain ⟨-, w, -, -, hputs, -⟩ := h
  exact Write.fits_of_effect hputs

end Ledger
end ClusterReads
