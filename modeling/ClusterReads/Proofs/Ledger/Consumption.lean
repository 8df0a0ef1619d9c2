import Mathlib.Algebra.GroupWithZero.Nat
import ClusterReads.Proofs.Ledger.Tasks

/-!
# The consumption of a role

A chain of checked additions comes to the exact sum, or to a fault if that is no word, in whatever order
the summands come. Main statement: after every history the consumption of a role is the sum over its
active production tasks, each counted once, and it overflows exactly if that sum is no word.
-/
namespace ClusterReads

theorem addWords_cases (a b : UInt64) :
    (∃ c, addWords a b = .ok c ∧ c.toNat = a.toNat + b.toNat) ∨
      (addWords a b = .error .sumOverflow ∧ UInt64.size ≤ a.toNat + b.toNat) := by
  by_cases h : a.toNat + b.toNat < UInt64.size
  · have hsum : addWords a b = .ok (a + b) := if_pos h
    exact Or.inl ⟨a + b, hsum, addWords_eq_ok_iff.1 hsum⟩
  · exact Or.inr ⟨if_neg h, Nat.le_of_not_lt h⟩

namespace Resources

/-- How a sum of so much memory and so much disk ends. -/
inductive Totals (ram disk : Nat) : Except Fault Resources → Prop
  | fits (total : Resources) (hram : total.ramMb.toNat = ram) (hdisk : total.diskMb.toNat = disk) :
    Totals ram disk (.ok total)
  | overflows (h : UInt64.size ≤ ram ∨ UInt64.size ≤ disk) : Totals ram disk (.error .sumOverflow)

theorem totals_add (a b : Resources) :
    Totals (a.ramMb.toNat + b.ramMb.toNat) (a.diskMb.toNat + b.diskMb.toNat) (a.add b) := by
  obtain ⟨ram, hram, hramSum⟩ | ⟨hram, hover⟩ := addWords_cases a.ramMb b.ramMb
  · obtain ⟨disk, hdisk, hdiskSum⟩ | ⟨hdisk, hover⟩ := addWords_cases a.diskMb b.diskMb
    · have hadd : a.add b = .ok ⟨a.numCpus + b.numCpus, ram, disk⟩ := by
        rw [add, hram, hdisk]
        rfl
      rw [hadd]
      exact .fits _ hramSum hdiskSum
    · have hadd : a.add b = .error .sumOverflow := by
        rw [add, hram, hdisk]
        rfl
      rw [hadd]
      exact .overflows (Or.inr hover)
  · have hadd : a.add b = .error .sumOverflow := by
      rw [add, hram]
      rfl
    rw [hadd]
    exact .overflows (Or.inl hover)

/-- A sum is a fault exactly if one of its amounts is no word. -/
theorem Totals.eq_error_iff {ram disk : Nat} {e : Except Fault Resources} (h : Totals ram disk e) :
    e = .error .sumOverflow ↔ UInt64.size ≤ ram ∨ UInt64.size ≤ disk := by
  cases h with
  | fits total hram hdisk =>
    have hramSize := total.ramMb.toNat_lt_size
    have hdiskSize := total.diskMb.toNat_lt_size
    simp only [reduceCtorEq, false_iff]
    omega
  | overflows h => simp [h]

theorem Totals.exists_ok {ram disk : Nat} {e : Except Fault Resources} (h : Totals ram disk e)
    (hfits : ¬ (UInt64.size ≤ ram ∨ UInt64.size ≤ disk)) :
    ∃ total : Resources, e = .ok total ∧ total.ramMb.toNat = ram ∧ total.diskMb.toNat = disk := by
  cases h with
  | fits total hram hdisk => exact ⟨total, rfl, hram, hdisk⟩
  | overflows h => exact absurd h hfits

end Resources

/-! ## Lists of tasks -/

/-- The exact sum of the memory of tasks. -/
def ramSum (tasks : List ScheduledTask) : Nat :=
  (tasks.map fun t => t.assigned.task.ramMb.toNat).sum

/-- The exact sum of the disk of tasks. -/
def diskSum (tasks : List ScheduledTask) : Nat :=
  (tasks.map fun t => t.assigned.task.diskMb.toNat).sum

theorem ramSum_cons (t : ScheduledTask) (rest : List ScheduledTask) :
    ramSum (t :: rest) = t.assigned.task.ramMb.toNat + ramSum rest := by
  simp [ramSum]

theorem diskSum_cons (t : ScheduledTask) (rest : List ScheduledTask) :
    diskSum (t :: rest) = t.assigned.task.diskMb.toNat + diskSum rest := by
  simp [diskSum]

theorem ramSum_perm {tasks other : List ScheduledTask} (h : tasks.Perm other) :
    ramSum tasks = ramSum other :=
  (h.map _).sum_nat

theorem diskSum_perm {tasks other : List ScheduledTask} (h : tasks.Perm other) :
    diskSum tasks = diskSum other :=
  (h.map _).sum_nat

/-- Once a sum has left the words, no further task brings it back. -/
theorem totals_foldlM (tasks : List ScheduledTask) (total : Resources) :
    Resources.Totals (total.ramMb.toNat + ramSum tasks) (total.diskMb.toNat + diskSum tasks)
      (tasks.foldlM (fun total t => total.add (.ofTask t.assigned.task)) total) := by
  induction tasks generalizing total with
  | nil => exact .fits total rfl rfl
  | cons t rest ih =>
    rw [List.foldlM_cons, ramSum_cons, diskSum_cons]
    have hnext := Resources.totals_add total (.ofTask t.assigned.task)
    generalize total.add (.ofTask t.assigned.task) = outcome at hnext ⊢
    cases hnext with
    | fits next hram hdisk =>
      have hrest := ih next
      rw [hram, hdisk, Nat.add_assoc, Nat.add_assoc] at hrest
      exact hrest
    | overflows h =>
      refine .overflows (h.imp (fun h => ?_) fun h => ?_)
      · exact Nat.le_trans h (Nat.add_le_add_left (Nat.le_add_right _ _) _)
      · exact Nat.le_trans h (Nat.add_le_add_left (Nat.le_add_right _ _) _)

theorem consumption_totals (tasks : List ScheduledTask) :
    Resources.Totals (ramSum (tasks.filter fun t => t.assigned.task.production))
      (diskSum (tasks.filter fun t => t.assigned.task.production)) (Store.consumption tasks) := by
  have h := totals_foldlM (tasks.filter fun t => t.assigned.task.production) .zero
  rwa [show Resources.zero.ramMb.toNat = 0 from rfl, show Resources.zero.diskMb.toNat = 0 from rfl,
    Nat.zero_add, Nat.zero_add] at h

/-! ## Roles -/

namespace Ledger

variable {σ : Type}

/-- The tasks of a ledger that count for a role, by identity. -/
def counted (l : Ledger) (role : String) : List ScheduledTask :=
  (l.tasks.filter (TaskQuery.roleScoped role).active.admits).toList.filter fun t =>
    t.assigned.task.production

theorem mem_counted_after_iff (history : List Write) (role : String) (t : ScheduledTask) :
    t ∈ (after history).counted role ↔ Stored history t ∧ t.jobKey.role = role ∧
      t.status.isTerminal = false ∧ t.assigned.task.production = true := by
  rw [counted, List.mem_filter, mem_filter_admits_iff, TaskQuery.admits_active rfl,
    TaskQuery.admits_roleScoped, and_assoc, and_assoc]

theorem consumedQuotaIn_run (l : Ledger) (order : Store.TaskOrder) (role : String) (env : Env) (s : σ) :
    ∃ outcome, (Store.fixed l.answers).consumedQuotaIn order role env s = ⟨outcome.map .ok, env, s⟩ ∧
      Resources.Totals (ramSum (l.counted role)) (diskSum (l.counted role)) outcome := by
  let tasks : TaskSet := l.tasks.filter (TaskQuery.roleScoped role).active.admits
  refine ⟨Store.consumption (order.list tasks), ?_, ?_⟩
  · have hrun : (Store.fixed l.answers).consumedQuotaIn order role env s =
        (do
          let total ← Act.attempt (Store.consumption (order.list tasks))
          return .ok total : Act σ (StoreResult Resources)) env s := rfl
    rw [hrun, Act.bind_run, Act.attempt]
    cases Store.consumption (order.list tasks) <;> rfl
  · have hperm : ((order.list tasks).filter fun t => t.assigned.task.production).Perm (l.counted role) :=
      (order.perm tasks).filter _
    rw [← ramSum_perm hperm, ← diskSum_perm hperm]
    exact consumption_totals _

/-- In whatever order they are counted, the active production tasks of a role come to their exact sum, or
to a fault exactly if that sum is no word. -/
theorem consumed_quota_exact (σ : Type) (history : List Write) (role : String) :
    ∃ counted : List ScheduledTask, counted.Nodup ∧
      (∀ t, t ∈ counted ↔ Stored history t ∧ t.jobKey.role = role ∧ t.status.isTerminal = false ∧
        t.assigned.task.production = true) ∧
      ∀ (order : Store.TaskOrder) (env : Env) (s : σ),
        ((storeAfter history).consumedQuotaIn order role env s = ⟨.error .sumOverflow, env, s⟩ ↔
          UInt64.size ≤ ramSum counted ∨ UInt64.size ≤ diskSum counted) ∧
        (¬ (UInt64.size ≤ ramSum counted ∨ UInt64.size ≤ diskSum counted) → ∃ total : Resources,
          (storeAfter history).consumedQuotaIn order role env s = ⟨.ok (.ok total), env, s⟩ ∧
          total.ramMb.toNat = ramSum counted ∧ total.diskMb.toNat = diskSum counted) := by
  refine ⟨(after history).counted role, (Keyed.nodup _).filter _, mem_counted_after_iff history role,
    fun order env s => ?_⟩
  obtain ⟨outcome, hrun, htotals⟩ := consumedQuotaIn_run (after history) order role env s
  rw [storeAfter, hrun, ← htotals.eq_error_iff]
  constructor
  · cases outcome <;> simp [Except.map]
  · intro hfits
    obtain ⟨total, rfl, hram, hdisk⟩ := htotals.exists_ok (by rwa [← htotals.eq_error_iff])
    exact ⟨total, rfl, hram, hdisk⟩

end Ledger
end ClusterReads
