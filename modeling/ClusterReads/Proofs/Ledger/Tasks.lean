import ClusterReads.Lookup
import ClusterReads.Proofs.Ledger.History
import ClusterReads.Proofs.Query

/-!
# Reads of tasks

A ledger holds the tasks that were saved last under their identities and not taken out since. Main
statement: a query finds those of them that it admits, which its active and its terminal part divide
between them, and all reads of tasks are the same after two histories that differ only in the order in
which different tasks were written.
-/
namespace ClusterReads
namespace Ledger

variable {σ : Type}

/-- A task is the last that was saved under its identity, and it was not taken out since. -/
def Stored (history : List Write) (t : ScheduledTask) : Prop :=
  Stands history (.task t.taskId) t

theorem mem_tasks_after_iff (history : List Write) (t : ScheduledTask) :
    t ∈ (after history).tasks.toList ↔ Stored history t := by
  rw [Keyed.mem_toList_iff]
  exact held?_after_eq_some_iff history (.task t.taskId) t

/-! ## One identity -/

/-- What a write does under an identity, in turn: it saves a task, or it takes out what is there. -/
def Write.touches (id : String) : Write → List (Option ScheduledTask)
  | .saveTasks tasks => (tasks.filter fun t => t.taskId = id).map some
  | .deleteTasks ids => if id ∈ ids then [none] else []
  | .clear => [none]
  | _ => []

/-- What a history does under an identity, in turn. -/
def touched (history : List Write) (id : String) : List (Option ScheduledTask) :=
  history.flatMap (Write.touches id)

/-- The last thing done under an identity is all that counts. -/
theorem Write.on_effect_task (w : Write) (id : String) (o : Option ScheduledTask) :
    (w.effect (.task id)).on o = (w.touches id).getLast?.getD o := by
  cases w with
  | saveTasks tasks =>
    have hlast : ((Write.saveTasks tasks).touches id).getLast? =
        (tasks.reverse.find? fun t => t.taskId = id).map some := by
      rw [touches, List.getLast?_map, List.getLast?_eq_head?_reverse, ← List.filter_reverse,
        List.head?_filter]
    rw [hlast, effect]
    cases tasks.reverse.find? fun t => decide (t.taskId = id) <;> rfl
  | deleteTasks ids =>
    by_cases h : id ∈ ids <;> simp [effect, touches, h]
  | _ => rfl

theorem get?_tasks_after (history : List Write) (id : String) :
    (after history).tasks.get? id = (touched history id).getLast?.getD none := by
  induction history using List.reverseRecOn with
  | nil => rfl
  | append_singleton history w ih =>
    have hstep : (after (history ++ [w])).tasks.get? id =
        (w.effect (.task id)).on ((after history).tasks.get? id) := by
      rw [after_snoc]
      exact held?_apply _ w (.task id)
    rw [hstep, Write.on_effect_task, ih, touched, touched, List.flatMap_append, List.getLast?_append,
      Option.getD_or]
    simp

/-- Two writes that have no identity in common may trade places. -/
theorem touched_swap (before later : List Write) {w w' : Write} {id : String}
    (h : w.touches id = [] ∨ w'.touches id = []) :
    touched (before ++ w :: w' :: later) id = touched (before ++ w' :: w :: later) id := by
  rcases h with h | h <;> simp [touched, h]

theorem tasks_after_congr {history other : List Write}
    (h : ∀ id, touched history id = touched other id) : (after history).tasks = (after other).tasks := by
  refine Keyed.ext_get? fun id => ?_
  rw [get?_tasks_after, get?_tasks_after, h]

/-- Of two tasks of one identity only one is stored. -/
theorem Stored.eq {history : List Write} {a b : ScheduledTask} (ha : Stored history a)
    (hb : Stored history b) (h : a.taskId = b.taskId) : a = b := by
  rw [← mem_tasks_after_iff, Keyed.mem_toList_iff] at ha hb
  rw [h, hb] at ha
  exact (Option.some.inj ha).symm

/-! ## Reads -/

/-- The store of what a history has left. -/
def storeAfter (history : List Write) : Store σ :=
  .fixed (after history).answers

theorem mem_filter_admits_iff (history : List Write) (q : TaskQuery) (t : ScheduledTask) :
    t ∈ ((after history).tasks.filter q.admits).toList ↔ Stored history t ∧ q.admits t = true := by
  rw [Keyed.toList_filter, List.mem_filter, mem_tasks_after_iff]

/-- No read of tasks tells two histories apart. -/
structure SameTaskReads (σ : Type) (history other : List Write) : Prop where
  query : ∀ q : TaskQuery, (storeAfter history : Store σ) (.tasks q) = storeAfter other (.tasks q)
  task : ∀ id, (storeAfter history : Store σ).task id = (storeAfter other).task id
  activeTasks : ∀ job, (storeAfter history : Store σ).activeTasks job = (storeAfter other).activeTasks job

theorem sameTaskReads {history other : List Write} (h : ∀ id, touched history id = touched other id) :
    SameTaskReads σ history other := by
  have hquery : ∀ q : TaskQuery, (storeAfter history : Store σ) (.tasks q) = storeAfter other (.tasks q) := by
    intro q
    simp only [storeAfter, Store.fixed, answers, tasks_after_congr h]
  exact ⟨hquery, fun id => by rw [Store.task, Store.task, hquery], fun job => hquery _⟩

/-- The reads of tasks and what a history has left. -/
structure TaskReads (σ : Type) (history : List Write) : Prop where
  /-- A query finds the tasks stored that it admits, one of each identity. -/
  query : ∀ (q : TaskQuery) (env : Env) (s : σ), ∃ tasks : TaskSet,
    storeAfter history (.tasks q) env s = ⟨.ok (.ok tasks), env, s⟩ ∧
    (∀ t, t ∈ tasks.toList ↔ Stored history t ∧ q.admits t = true) ∧
    (tasks.toList.map ScheduledTask.taskId).Nodup
  /-- A query for all states is divided between its active and its terminal part. -/
  divided : ∀ q : TaskQuery, q.statuses = none → ∀ (env : Env) (s : σ), ∃ all active terminal : TaskSet,
    storeAfter history (.tasks q) env s = ⟨.ok (.ok all), env, s⟩ ∧
    storeAfter history (.tasks q.active) env s = ⟨.ok (.ok active), env, s⟩ ∧
    storeAfter history (.tasks q.terminal) env s = ⟨.ok (.ok terminal), env, s⟩ ∧
    (∀ a ∈ active.toList, ∀ b ∈ terminal.toList, a.taskId ≠ b.taskId) ∧
    ∀ t, t ∈ all.toList ↔ t ∈ active.toList ∨ t ∈ terminal.toList
  task : ∀ (id : String) (env : Env) (s : σ), ∃ found : Option ScheduledTask,
    (storeAfter history).task id env s = ⟨.ok (.ok found), env, s⟩ ∧
    ∀ t, found = some t ↔ Stored history t ∧ t.taskId = id
  activeTasks : ∀ (job : JobKey) (env : Env) (s : σ), ∃ tasks : TaskSet,
    (storeAfter history).activeTasks job env s = ⟨.ok (.ok tasks), env, s⟩ ∧
    ∀ t, t ∈ tasks.toList ↔ Stored history t ∧ t.jobKey = job ∧ t.status.isTerminal = false
  /-- Only what is done under one identity has an order. -/
  unordered : ∀ other, (∀ id, touched history id = touched other id) → SameTaskReads σ history other
  /-- Two writes in a row that have no identity in common may trade places. -/
  swapped : ∀ before w w' later, history = before ++ w :: w' :: later →
    (∀ id, w.touches id = [] ∨ w'.touches id = []) →
    SameTaskReads σ history (before ++ w' :: w :: later)

theorem task_reads_after (σ : Type) (history : List Write) : TaskReads σ history where
  query q env s := ⟨_, rfl, mem_filter_admits_iff history q, Keyed.nodup_keys _⟩
  divided := by
    intro q hq env s
    refine ⟨_, _, _, rfl, rfl, rfl, fun a ha b hb hid => ?_, fun t => ?_⟩
    · rw [mem_filter_admits_iff, TaskQuery.admits_active hq] at ha
      rw [mem_filter_admits_iff, TaskQuery.admits_terminal hq] at hb
      have hstatus : a.status.isTerminal = b.status.isTerminal := by rw [ha.1.eq hb.1 hid]
      rw [ha.2.2, hb.2.2] at hstatus
      cases hstatus
    · rw [mem_filter_admits_iff, mem_filter_admits_iff, mem_filter_admits_iff, TaskQuery.admits_active hq,
        TaskQuery.admits_terminal hq]
      cases t.status.isTerminal <;> simp
  task := by
    intro id env s
    refine ⟨_, rfl, fun t => ?_⟩
    rw [Keyed.get?_eq_some_iff, mem_filter_admits_iff, TaskQuery.admits_taskScoped, List.mem_singleton,
      and_assoc, and_self]
  activeTasks := by
    intro job env s
    refine ⟨_, rfl, fun t => ?_⟩
    rw [mem_filter_admits_iff, TaskQuery.admits_active rfl, TaskQuery.admits_jobScoped]
  unordered := fun _ h => sameTaskReads h
  swapped := by
    rintro before w w' later rfl h
    exact sameTaskReads fun id => touched_swap before later (h id)

end Ledger
end ClusterReads
