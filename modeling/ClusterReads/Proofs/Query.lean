import ClusterReads.Query
import ClusterReads.Proofs.Keyed
import ClusterReads.Proofs.Latest

/-!
# The meaning of a chain of refiners

A query is made by refining one without filters, again and again. Most refiners set a filter anew, a host
is added to those before. Main statement: a query that was made so admits a task exactly if the latest
refiner of each filter does, and one of the hosts has the task, if any host was named.
-/
namespace ClusterReads
namespace TaskQuery

/-! ## Refiners and filters -/

/-- A change of a query. -/
inductive Refiner where
  | byRole (role : String)
  | byEnvironment (environment : String)
  | byJob (job : JobKey)
  | byTaskIds (ids : List String)
  | byStatus (statuses : List ScheduleStatus)
  | byInstances (instances : List UInt32)
  | bySlave (host : String)
  | active
  | terminal

def refine (q : TaskQuery) : Refiner → TaskQuery
  | .byRole role => q.byRole role
  | .byEnvironment environment => q.byEnvironment environment
  | .byJob job => q.byJob job
  | .byTaskIds ids => q.byTaskIds ids
  | .byStatus statuses => q.byStatus statuses
  | .byInstances instances => q.byInstances instances
  | .bySlave host => q.bySlave host
  | .active => q.active
  | .terminal => q.terminal

/-- The query that a chain of refiners makes of one without filters. -/
def refined (chain : List Refiner) : TaskQuery :=
  chain.foldl refine unscoped

inductive Filter where
  | role
  | environment
  | jobName
  | taskIds
  | statuses
  | instanceIds
  | slaveHosts
  deriving DecidableEq

namespace Refiner

/-- The filters that a refiner changes. -/
def filters : Refiner → List Filter
  | .byRole _ => [.role]
  | .byEnvironment _ => [.environment]
  | .byJob _ => [.role, .environment, .jobName]
  | .byTaskIds _ => [.taskIds]
  | .byStatus _ | .active | .terminal => [.statuses]
  | .byInstances _ => [.instanceIds]
  | .bySlave _ => [.slaveHosts]

/-- What a refiner asks of a task when it sets a filter. A host sets none: it is one of several. -/
def Admits (t : ScheduledTask) : Refiner → Filter → Prop
  | .byRole role, .role => t.jobKey.role = role
  | .byEnvironment environment, .environment => t.jobKey.environment = environment
  | .byJob job, .role => t.jobKey.role = job.role
  | .byJob job, .environment => t.jobKey.environment = job.environment
  | .byJob job, .jobName => t.jobKey.name = job.name
  | .byTaskIds ids, .taskIds => t.taskId ∈ ids
  | .byStatus statuses, .statuses => t.status ∈ statuses
  | .active, .statuses => t.status.isTerminal = false
  | .terminal, .statuses => t.status.isTerminal = true
  | .byInstances instances, .instanceIds => t.instanceId ∈ instances
  | _, _ => True

/-- The host that a refiner adds. -/
def host? : Refiner → Option String
  | .bySlave host => some host
  | _ => none

theorem host?_eq_some_iff (r : Refiner) (host : String) : r.host? = some host ↔ r = .bySlave host := by
  cases r <;> simp [host?]

end Refiner

/-- A refiner is the latest in a chain to change a filter. -/
def LatestOn (chain : List Refiner) (f : Filter) (r : Refiner) : Prop :=
  Latest (fun r' => f ∈ r'.filters ∧ r' = r) (fun r' => f ∉ r'.filters) chain

theorem latestOn_snoc_iff (chain : List Refiner) (r' : Refiner) (f : Filter) (r : Refiner) :
    LatestOn (chain ++ [r']) f r ↔ (f ∈ r'.filters ∧ r' = r) ∨ (f ∉ r'.filters ∧ LatestOn chain f r) :=
  latest_snoc_iff chain r'

theorem LatestOn.mem {chain : List Refiner} {f : Filter} {r : Refiner} (h : LatestOn chain f r) :
    f ∈ r.filters := by
  obtain ⟨-, r', -, -, ⟨hf, rfl⟩, -⟩ := h
  exact hf

/-! ## Filter by filter -/

/-- A task passes one filter of a query. -/
def Passes (q : TaskQuery) (t : ScheduledTask) : Filter → Prop
  | .role => ∀ role ∈ q.role, role = t.jobKey.role
  | .environment => ∀ environment ∈ q.environment, environment = t.jobKey.environment
  | .jobName => ∀ name ∈ q.jobName, name = t.jobKey.name
  | .taskIds => ∀ ids ∈ q.taskIds, t.taskId ∈ ids.toList
  | .statuses => ∀ statuses ∈ q.statuses, t.status ∈ statuses.toList
  | .instanceIds => ∀ instances ∈ q.instanceIds, t.instanceId ∈ instances.toList
  | .slaveHosts => ∀ hosts ∈ q.slaveHosts, ∃ host, t.slaveHost = some host ∧ host ∈ hosts.toList

theorem admits_iff_passes (q : TaskQuery) (t : ScheduledTask) :
    q.admits t = true ↔ ∀ f, q.Passes t f := by
  have hfilters : (∀ f, q.Passes t f) ↔ q.Passes t .role ∧ q.Passes t .environment ∧ q.Passes t .jobName ∧
      q.Passes t .taskIds ∧ q.Passes t .statuses ∧ q.Passes t .instanceIds ∧ q.Passes t .slaveHosts := by
    constructor
    · intro h
      exact ⟨h _, h _, h _, h _, h _, h _, h _⟩
    · rintro ⟨hrole, henvironment, hname, hids, hstatuses, hinstances, hhosts⟩ f
      cases f <;> assumption
  rw [hfilters]
  simp only [admits, Passes, Bool.and_eq_true, Option.all_eq_true, Option.any_eq_true, Option.mem_def,
    beq_iff_eq, SortedSet.contains_iff_mem, and_assoc]

/-- A filter is left alone by the refiners that do not change it. -/
theorem passes_refine_of_not_mem (q : TaskQuery) (t : ScheduledTask) {r : Refiner} {f : Filter}
    (h : f ∉ r.filters) : (q.refine r).Passes t f ↔ q.Passes t f := by
  cases r <;> cases f <;> first
    | exact Iff.rfl
    | simp [Refiner.filters] at h

/-- A filter that is set anew forgets what it was. Hosts are not set, but added. -/
theorem passes_refine_of_mem (q : TaskQuery) (t : ScheduledTask) {r : Refiner} {f : Filter}
    (h : f ∈ r.filters) (hf : f ≠ .slaveHosts) : (q.refine r).Passes t f ↔ r.Admits t f := by
  cases r with
  | byRole role =>
    obtain rfl := List.mem_singleton.1 h
    simp [refine, byRole, Passes, Refiner.Admits, eq_comm]
  | byEnvironment environment =>
    obtain rfl := List.mem_singleton.1 h
    simp [refine, byEnvironment, Passes, Refiner.Admits, eq_comm]
  | byJob job =>
    obtain rfl | rfl | rfl : f = .role ∨ f = .environment ∨ f = .jobName := by
      simpa [Refiner.filters] using h
    all_goals simp [refine, byJob, Passes, Refiner.Admits, eq_comm]
  | byTaskIds ids =>
    obtain rfl := List.mem_singleton.1 h
    simp [refine, byTaskIds, Passes, Refiner.Admits, SortedSet.mem_ofList]
  | byStatus statuses =>
    obtain rfl := List.mem_singleton.1 h
    simp [refine, byStatus, Passes, Refiner.Admits, SortedSet.mem_ofList]
  | byInstances instances =>
    obtain rfl := List.mem_singleton.1 h
    simp [refine, byInstances, Passes, Refiner.Admits, SortedSet.mem_ofList]
  | bySlave host =>
    exact absurd (List.mem_singleton.1 h) hf
  | active =>
    obtain rfl := List.mem_singleton.1 h
    simp [refine, active, byStatus, Passes, Refiner.Admits, SortedSet.mem_ofList,
      ScheduleStatus.mem_activeStates, ScheduleStatus.isActive]
  | terminal =>
    obtain rfl := List.mem_singleton.1 h
    simp [refine, terminal, byStatus, Passes, Refiner.Admits, SortedSet.mem_ofList,
      ScheduleStatus.mem_terminalStates]

/-! ## The job -/

theorem jobKey?_eq_some_iff (q : TaskQuery) (k : JobKey) : q.jobKey? = some k ↔
    q.role = some k.role ∧ q.environment = some k.environment ∧ q.jobName = some k.name := by
  obtain ⟨role, environment, name⟩ := k
  unfold jobKey?
  split
  · next hrole henvironment hname => simp [hrole, henvironment, hname]
  · next h =>
    simp only [reduceCtorEq, false_iff]
    rintro ⟨hrole, henvironment, hname⟩
    exact h _ _ _ hrole henvironment hname

theorem exists_jobKey?_iff (q : TaskQuery) :
    (∃ k, q.jobKey? = some k) ↔ q.isSingleJobScoped = true := by
  simp only [jobKey?_eq_some_iff, isSingleJobScoped, Bool.and_eq_true, Option.isSome_iff_exists, and_assoc]
  constructor
  · rintro ⟨k, hrole, henvironment, hname⟩
    exact ⟨⟨_, hrole⟩, ⟨_, henvironment⟩, ⟨_, hname⟩⟩
  · rintro ⟨⟨role, hrole⟩, ⟨environment, henvironment⟩, ⟨name, hname⟩⟩
    exact ⟨⟨role, environment, name⟩, hrole, henvironment, hname⟩

theorem jobKey_of_admits {q : TaskQuery} {k : JobKey} (hk : q.jobKey? = some k) {t : ScheduledTask}
    (ht : q.admits t = true) : t.jobKey = k := by
  obtain ⟨hrole, henvironment, hname⟩ := (jobKey?_eq_some_iff q k).1 hk
  have hpasses := (admits_iff_passes q t).1 ht
  obtain ⟨role, environment, name⟩ := k
  obtain rfl : role = t.jobKey.role := hpasses .role _ hrole
  obtain rfl : environment = t.jobKey.environment := hpasses .environment _ henvironment
  obtain rfl : name = t.jobKey.name := hpasses .jobName _ hname
  rfl

/-! ## Activity -/

/-- A query without a filter of statuses admits in some states what it admitted in all. -/
theorem admits_byStatus {q : TaskQuery} (h : q.statuses = none) (statuses : List ScheduleStatus)
    (t : ScheduledTask) :
    (q.byStatus statuses).admits t = true ↔ q.admits t = true ∧ t.status ∈ statuses := by
  simp only [admits, byStatus, h, Option.all_none, Option.all_some, Bool.and_true, Bool.and_eq_true,
    SortedSet.contains_iff_mem, SortedSet.mem_ofList]
  tauto

theorem admits_active {q : TaskQuery} (h : q.statuses = none) (t : ScheduledTask) :
    q.active.admits t = true ↔ q.admits t = true ∧ t.status.isTerminal = false := by
  rw [active, admits_byStatus h, ScheduleStatus.mem_activeStates, ScheduleStatus.isActive, Bool.not_eq_true']

theorem admits_terminal {q : TaskQuery} (h : q.statuses = none) (t : ScheduledTask) :
    q.terminal.admits t = true ↔ q.admits t = true ∧ t.status.isTerminal = true := by
  rw [terminal, admits_byStatus h, ScheduleStatus.mem_terminalStates]

theorem admits_roleScoped (role : String) (t : ScheduledTask) :
    (roleScoped role).admits t = true ↔ t.jobKey.role = role := by
  simp only [roleScoped, byRole, unscoped, admits, Option.all_none, Option.all_some, Bool.and_true,
    beq_iff_eq]
  exact eq_comm

theorem admits_taskScoped (ids : List String) (t : ScheduledTask) :
    (taskScoped ids).admits t = true ↔ t.taskId ∈ ids := by
  simp [taskScoped, byTaskIds, unscoped, admits, SortedSet.contains_iff_mem, SortedSet.mem_ofList]

theorem admits_jobScoped (job : JobKey) (t : ScheduledTask) :
    (jobScoped job).admits t = true ↔ t.jobKey = job := by
  obtain ⟨role, environment, name⟩ := job
  constructor
  · exact jobKey_of_admits rfl
  · intro h
    simp [jobScoped, byJob, unscoped, admits, h]

/-! ## Chains -/

theorem refined_snoc (chain : List Refiner) (r : Refiner) :
    refined (chain ++ [r]) = (refined chain).refine r := by
  simp [refined]

theorem refined_append (chain later : List Refiner) :
    refined (chain ++ later) = later.foldl refine (refined chain) := by
  simp [refined]

/-- A task passes a filter if the latest refiner of the filter admits it. -/
theorem passes_refined (chain : List Refiner) (t : ScheduledTask) {f : Filter} (hf : f ≠ .slaveHosts) :
    (refined chain).Passes t f ↔ ∀ r, LatestOn chain f r → r.Admits t f := by
  induction chain using List.reverseRecOn with
  | nil =>
    have hnone : ∀ r, ¬ LatestOn [] f r := fun _ => not_latest_nil
    cases f <;> simp [refined, unscoped, Passes, hnone] at hf ⊢
  | append_singleton chain r ih =>
    rw [refined_snoc]
    simp only [latestOn_snoc_iff]
    by_cases h : f ∈ r.filters
    · simp [passes_refine_of_mem _ t h hf, h]
    · simp [passes_refine_of_not_mem _ t h, ih, h]

/-- The hosts that a chain names. -/
def named (chain : List Refiner) : List String :=
  chain.filterMap Refiner.host?

theorem mem_named_iff (chain : List Refiner) (host : String) :
    host ∈ named chain ↔ .bySlave host ∈ chain := by
  simp [named, Refiner.host?_eq_some_iff]

/-- The host filter holds the hosts that were named; without any there is none. -/
theorem slaveHosts_refined (chain : List Refiner) :
    (refined chain).slaveHosts = if named chain = [] then none else some (.ofList (named chain)) := by
  induction chain using List.reverseRecOn with
  | nil => rfl
  | append_singleton chain r ih =>
    cases hr : r.host? with
    | none =>
      have hnamed : named (chain ++ [r]) = named chain := by simp [named, hr]
      have hhosts : ((refined chain).refine r).slaveHosts = (refined chain).slaveHosts := by
        cases r <;> first
          | rfl
          | simp [Refiner.host?] at hr
      rw [refined_snoc, hhosts, hnamed, ih]
    | some host =>
      obtain rfl := (r.host?_eq_some_iff host).1 hr
      have hnamed : named (chain ++ [.bySlave host]) = named chain ++ [host] := by simp [named, hr]
      rw [refined_snoc, hnamed, if_neg (by simp), Keyed.ofList_snoc, refine, bySlave, ih]
      by_cases h : named chain = []
      · simp [h, Keyed.ofList, Keyed.insertAll]
      · simp [h]

theorem passes_slaveHosts_refined (chain : List Refiner) (t : ScheduledTask) :
    (refined chain).Passes t .slaveHosts ↔ ((∃ host, .bySlave host ∈ chain) →
      ∃ host, t.slaveHost = some host ∧ .bySlave host ∈ chain) := by
  simp only [Passes, slaveHosts_refined, ← mem_named_iff]
  by_cases h : named chain = []
  · simp [h]
  · have hsome := List.exists_mem_of_ne_nil _ h
    simp only [h, if_false, Option.mem_def, Option.some.injEq, forall_eq', SortedSet.mem_ofList, hsome,
      true_imp_iff]

/-! ## Refiners that trade places -/

theorem refine_comm (q : TaskQuery) {r r' : Refiner} (h : ∀ f ∈ r.filters, f ∉ r'.filters) :
    (q.refine r).refine r' = (q.refine r').refine r := by
  cases r <;> cases r' <;> first
    | rfl
    | simp [Refiner.filters] at h

theorem bySlave_comm (q : TaskQuery) (host host' : String) :
    (q.bySlave host).bySlave host' = (q.bySlave host').bySlave host := by
  simp only [bySlave, Option.getD_some]
  congr 2
  refine Keyed.ext_mem fun a => ?_
  simp only [SortedSet.mem_insert]
  exact or_left_comm

theorem bySlave_of_mem {chain : List Refiner} {host : String} (h : .bySlave host ∈ chain) :
    (refined chain).bySlave host = refined chain := by
  have hnamed := (mem_named_iff chain host).2 h
  have hhosts : (refined chain).slaveHosts = some (.ofList (named chain)) := by
    rw [slaveHosts_refined, if_neg (List.ne_nil_of_mem hnamed)]
  have hsame : (Keyed.ofList (named chain) : SortedSet String).insert host = .ofList (named chain) := by
    refine Keyed.ext_mem fun a => ?_
    rw [SortedSet.mem_insert, SortedSet.mem_ofList]
    constructor
    · rintro (rfl | ha)
      · exact hnamed
      · exact ha
    · exact Or.inr
  rw [bySlave, hhosts, Option.getD_some, hsame, ← hhosts]

/-! ## What a chain means -/

structure Meaning (chain : List Refiner) : Prop where
  /-- The latest refiner of each filter admits the task, and one of the hosts named has it. -/
  admits_iff : ∀ t, (refined chain).admits t = true ↔ (∀ f r, LatestOn chain f r → r.Admits t f) ∧
    ((∃ host, .bySlave host ∈ chain) → ∃ host, t.slaveHost = some host ∧ .bySlave host ∈ chain)
  /-- An empty list admits nothing. -/
  admits_nothing : ∀ f r, r = .byTaskIds [] ∨ r = .byStatus [] ∨ r = .byInstances [] →
    LatestOn chain f r → ∀ t, (refined chain).admits t = false
  /-- Refiners of different filters may trade places. -/
  comm : ∀ r r' later, (∀ f ∈ r.filters, f ∉ r'.filters) →
    refined (chain ++ r :: r' :: later) = refined (chain ++ r' :: r :: later)
  /-- So may hosts. -/
  comm_hosts : ∀ host host' later, refined (chain ++ .bySlave host :: .bySlave host' :: later) =
    refined (chain ++ .bySlave host' :: .bySlave host :: later)
  /-- A host named again changes nothing. -/
  repeat_host : ∀ host later, .bySlave host ∈ chain →
    refined (chain ++ .bySlave host :: later) = refined (chain ++ later)
  jobKey_iff : (∃ k, (refined chain).jobKey? = some k) ↔ (refined chain).isSingleJobScoped = true
  jobKey_eq : ∀ k, (refined chain).jobKey? = some k → ∀ t, (refined chain).admits t = true → t.jobKey = k

theorem admits_refined_iff (chain : List Refiner) (t : ScheduledTask) :
    (refined chain).admits t = true ↔ (∀ f r, LatestOn chain f r → r.Admits t f) ∧
      ((∃ host, .bySlave host ∈ chain) → ∃ host, t.slaveHost = some host ∧ .bySlave host ∈ chain) := by
  rw [admits_iff_passes]
  constructor
  · intro h
    refine ⟨fun f => ?_, (passes_slaveHosts_refined chain t).1 (h _)⟩
    by_cases hf : f = .slaveHosts
    · intro r hr
      subst hf
      cases r <;> trivial
    · exact (passes_refined chain t hf).1 (h f)
  · rintro ⟨hlatest, hhosts⟩ f
    by_cases hf : f = .slaveHosts
    · subst hf
      exact (passes_slaveHosts_refined chain t).2 hhosts
    · exact (passes_refined chain t hf).2 (hlatest f)

theorem refined_meaning (chain : List Refiner) : Meaning chain where
  admits_iff := admits_refined_iff chain
  admits_nothing := by
    intro f r hr hlatest t
    rw [← Bool.not_eq_true, admits_refined_iff]
    rintro ⟨h, -⟩
    have hadmits := h f r hlatest
    have hf := hlatest.mem
    obtain rfl | rfl | rfl := hr
    all_goals
      obtain rfl := List.mem_singleton.1 hf
      exact List.not_mem_nil hadmits
  comm := by
    intro r r' later h
    rw [refined_append, refined_append, List.foldl_cons, List.foldl_cons, refine_comm _ h]
    rfl
  comm_hosts := by
    intro host host' later
    rw [refined_append, refined_append, List.foldl_cons, List.foldl_cons]
    exact congrArg (List.foldl refine · later) (bySlave_comm _ host host')
  repeat_host := by
    intro host later h
    rw [refined_append, refined_append, List.foldl_cons]
    exact congrArg (List.foldl refine · later) (bySlave_of_mem h)
  jobKey_iff := exists_jobKey?_iff _
  jobKey_eq := fun _ hk _ ht => jobKey_of_admits hk ht

end TaskQuery
end ClusterReads
