import ClusterReads.Proofs.Ledger.History
import ClusterReads.Proofs.Query

/-!
# Reads of a ledger

The reads of a ledger agree with each other, whatever it holds: a read by key tells what is in its
place, and the other reads list what the reads by key find. Main statement: after every history of
writes the reads by key tell the last record that was put in a place and still stands there, and all
reads agree.
-/
namespace ClusterReads
namespace Ledger

/-- A read by key tells what is in its place. -/
theorem tells_iff_held? (l : Ledger) (s : Shelf) (o : Option s.Record) :
    s.Tells l.answers o ↔ l.held? s = o := by
  cases s with
  | task id =>
    have hadmits : (l.tasks.get? id).filter (TaskQuery.taskScoped [id]).admits = l.tasks.get? id := by
      cases htask : l.tasks.get? id with
      | none => rfl
      | some task =>
        obtain rfl : task.taskId = id := Keyed.key_of_get? htask
        simp [TaskQuery.admits_taskScoped]
    constructor
    · rintro ⟨tasks, htasks, rfl⟩
      cases htasks
      rw [Keyed.get?_filter, hadmits]
      rfl
    · intro h
      refine ⟨_, rfl, ?_⟩
      rw [Keyed.get?_filter, hadmits]
      exact h
  | deploy id =>
    simp only [held?]
    cases o <;> cases hdeploy : l.deploys.get? id <;> simp [Shelf.Tells, answers, hdeploy]
  | _ => simp [Shelf.Tells, answers, held?]

/-! ## Reads of many records -/

theorem mem_jobsOf_iff (l : Ledger) (manager : String) (job : JobConfiguration) :
    job ∈ (l.jobsOf manager).toList ↔ ∃ key, l.answers (.job manager key) = .ok (some job) := by
  simp [answers, Keyed.mem_toList_iff_exists]

theorem mem_managerIds_iff (l : Ledger) (manager : String) :
    manager ∈ l.managerIds.toList ↔ (l.jobsOf manager).toList ≠ [] := by
  have hjobs : ∀ jobs : Keyed JobConfiguration.key,
      (!jobs.isEmpty) = true ↔ jobs.toList ≠ [] := by
    intro jobs
    simp [Keyed.isEmpty]
  rw [managerIds, SortedSet.mem_ofList, List.mem_map]
  constructor
  · rintro ⟨⟨m, jobs⟩, hentry, rfl⟩
    obtain ⟨hmem, hne⟩ := List.mem_filter.1 hentry
    rw [SortedMap.mem_toList_iff] at hmem
    rw [jobsOf, hmem, Option.getD_some]
    exact (hjobs jobs).1 hne
  · intro hne
    cases hlookup : l.jobs.lookup? manager with
    | none =>
      rw [jobsOf, hlookup] at hne
      exact absurd rfl hne
    | some jobs =>
      rw [jobsOf, hlookup, Option.getD_some] at hne
      refine ⟨(manager, jobs), List.mem_filter.2 ⟨?_, (hjobs jobs).2 hne⟩, rfl⟩
      rwa [SortedMap.mem_toList_iff]

/-- The reads of a ledger, taken together, and what its history has left in place. -/
structure Agrees (history : List Write) (l : Ledger) : Prop where
  /-- A read by key tells the record that stands in its place. -/
  found : ∀ (s : Shelf) (r : s.Record), s.Tells l.answers (some r) ↔ Stands history s r
  /-- It tells that nothing is there exactly if nothing stands there. -/
  missing : ∀ s : Shelf, s.Tells l.answers none ↔ ∀ r, ¬ Stands history s r
  /-- Every record is in the place of its own key. -/
  fits : ∀ (s : Shelf) (r : s.Record), s.Tells l.answers (some r) → s.Fits r
  /-- The jobs of a manager are those found by key, in ascending order of their keys. -/
  jobs : ∀ manager, ∃ jobs, l.answers (.jobs manager) = .ok jobs ∧
    (jobs.Pairwise fun a b => compare a.key b.key = .lt) ∧
    ∀ job, job ∈ jobs ↔ ∃ key, l.answers (.job manager key) = .ok (some job)
  /-- The managers are those that have a job. -/
  managers : ∃ ids : SortedSet String, l.answers .managerIds = .ok ids ∧
    ∀ manager, manager ∈ ids.toList ↔ l.answers (.jobs manager) ≠ .ok []
  locks : ∃ locks : Distinct Lock, l.answers .locks = .ok locks ∧
    ∀ lock, lock ∈ locks.toList ↔ ∃ key, l.answers (.lock key) = .ok (some lock)
  quotas : ∃ quotas : SortedMap String Resources, l.answers .quotas = .ok quotas ∧
    ∀ role quota, (role, quota) ∈ quotas.toList ↔ l.answers (.quota role) = .ok (some quota)
  hosts : ∃ hosts : Distinct HostAttributes, l.answers .hosts = .ok hosts ∧
    ∀ host, host ∈ hosts.toList ↔ ∃ name, l.answers (.host name) = .ok (some host)
  deploys : ∃ deploys : Distinct Deploy, l.answers .deploys = .ok deploys ∧
    ∀ deploy, deploy ∈ deploys.toList ↔ ∃ id, l.answers (.deploy id) = .ok deploy
  /-- The removal of a job reports whether the job was found before. -/
  removal : ∀ manager key, (l.removeJob manager key).1 = true ↔
    ∃ job, l.answers (.job manager key) = .ok (some job)

/-- After every history of writes, the reads by key tell the last record put in a place that still
stands there, and all reads agree with them. -/
theorem reads_agree_after (history : List Write) : Agrees history (after history) where
  found s r := by rw [tells_iff_held?, held?_after_eq_some_iff]
  missing s := by
    rw [tells_iff_held?, Option.eq_none_iff_forall_ne_some]
    simp only [ne_eq, held?_after_eq_some_iff]
  fits s r h := by
    rw [tells_iff_held?, held?_after_eq_some_iff] at h
    obtain ⟨-, w, -, -, hputs, -⟩ := h
    exact Write.fits_of_effect hputs
  jobs manager := ⟨_, rfl, ((after history).jobsOf manager).ascending, mem_jobsOf_iff _ manager⟩
  managers := by
    refine ⟨_, rfl, fun manager => ?_⟩
    rw [mem_managerIds_iff]
    simp [answers]
  locks := by
    refine ⟨_, rfl, fun lock => ?_⟩
    simp [answers, Distinct.mem_ofList, Keyed.mem_toList_iff_exists]
  quotas := by
    refine ⟨_, rfl, fun role quota => ?_⟩
    simp [answers, SortedMap.mem_toList_iff]
  hosts := by
    refine ⟨_, rfl, fun host => ?_⟩
    simp [answers, Distinct.mem_ofList, Keyed.mem_toList_iff_exists]
  deploys := by
    refine ⟨_, rfl, fun deploy => ?_⟩
    rw [Distinct.mem_ofList, Keyed.mem_toList_iff_exists]
    refine exists_congr fun id => ?_
    exact (tells_iff_held? (after history) (.deploy id) (some deploy)).symm
  removal manager key := by
    simp [removeJob, Keyed.contains_iff_exists, answers]

end Ledger
end ClusterReads
