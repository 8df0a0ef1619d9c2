import ClusterReads.Proofs.Layer.Validation
import ClusterReads.Proofs.Ledger.Jobs

/-!
# Derived reads of a validated store

A derived read takes its calls to the validated store, also those that it makes of what the store has
told. Main statements: listing and finding jobs is the same with validation as without up to the first
manager whose name is blank, and there they are refused; the reads of one job refuse the same keys but
for malformed ones without a blank part, which the tasks are asked for all the same.
-/
namespace ClusterReads

variable {σ ρ α : Type}

/-! ## Listing and finding -/

section Managers

open Validation (layer)

variable {inner : Store ρ}

theorem Validation.layer_jobs {m : String} (h : Text.trim m ≠ []) :
    layer inner (.jobs m) = inner (.jobs m) :=
  layer_of_flaw?_eq_none inner ((Call.flaw?_eq_none_iff _).2 (by simpa [Call.demands, Demand.Met] using h))

theorem Validation.layer_job {m : String} {key : JobKey} (h : Text.trim m ≠ []) (hkey : key.WellFormed) :
    layer inner (.job m key) = inner (.job m key) :=
  layer_of_flaw?_eq_none inner
    ((Call.flaw?_eq_none_iff _).2 (by simpa [Call.demands, Demand.Met] using ⟨h, hkey⟩))

/-- A listing is refused at a blank manager. -/
theorem Validation.jobsOfAll_of_blank {m : String} (h : Text.trim m = []) (rest : List String) :
    (layer inner).jobsOfAll (m :: rest) = (Flaw.blank "manager_id").refusal := by
  have hfirst : (Call.jobs m).FirstUnmet (.speaking "manager_id" m) :=
    ⟨[], [], rfl, by simp, by simpa [Demand.Met] using h⟩
  rw [Store.jobsOfAll, layer_of_flaw inner hfirst.flaw?_eq]
  rfl

theorem Validation.findJobIn_of_blank {m : String} (h : Text.trim m = []) (key : JobKey)
    (rest : List String) :
    (layer inner).findJobIn key (m :: rest) = (Flaw.blank "manager_id").refusal := by
  have hfirst : (Call.job m key).FirstUnmet (.speaking "manager_id" m) :=
    ⟨[], [.wellFormed key], rfl, by simp, by simpa [Demand.Met] using h⟩
  rw [Store.findJobIn, layer_of_flaw inner hfirst.flaw?_eq]
  rfl

/-- Listing and finding jobs through validation is the same as without it if no manager has a blank
name. Otherwise it is the same if the managers before the first blank one end it, and is refused if they
do not. -/
theorem Validation.walks_up_to_blank (inner : Store ρ) {key : JobKey} (hkey : key.WellFormed)
    (env : Env) (s : ρ) :
    ((∀ ids, (inner .managerIds env s).outcome = .ok (.ok ids) →
        ∀ m ∈ ids.toList, Text.trim m ≠ []) →
      (layer inner).allJobs env s = inner.allJobs env s ∧
      (layer inner).findJob key env s = inner.findJob key env s) ∧
    ∀ (ids : SortedSet String) (later : Env) (s' : ρ) (before : List String) (blank : String)
      (after : List String), inner .managerIds env s = ⟨.ok (.ok ids), later, s'⟩ →
      ids.toList = before ++ blank :: after → (∀ m ∈ before, Text.trim m ≠ []) →
      Text.trim blank = [] →
      (layer inner).allJobs env s = (match inner.jobsOfAll before later s' with
        | ⟨.ok (.ok _), env, s⟩ => (Flaw.blank "manager_id").refusal env s
        | _ => inner.allJobs env s) ∧
      (layer inner).findJob key env s = (match inner.findJobIn key before later s' with
        | ⟨.ok (.ok none), env, s⟩ => (Flaw.blank "manager_id").refusal env s
        | _ => inner.findJob key env s) := by
  have hids : layer inner .managerIds = inner .managerIds := rfl
  constructor
  · intro hnamed
    exact ⟨Store.allJobs_congr hids fun ids htold m hm => layer_jobs (hnamed ids htold m hm),
      Store.findJob_congr hids fun ids htold m hm => layer_job (hnamed ids htold m hm) hkey⟩
  · intro ids later s' before blank after hrun hsplit hbefore hblank
    have hrun' := hrun
    rw [← hids] at hrun'
    rw [Store.allJobs_run hrun, Store.findJob_run hrun, Store.allJobs_run hrun', Store.findJob_run hrun',
      hsplit, Store.jobsOfAll_append, Store.jobsOfAll_append, Store.findJobIn_append,
      Store.findJobIn_append, jobsOfAll_of_blank hblank, findJobIn_of_blank hblank,
      Store.jobsOfAll_congr fun m hm => layer_jobs (hbefore m hm),
      Store.findJobIn_congr fun m hm => layer_job (hbefore m hm) hkey]
    constructor
    · rw [Act.bind_run, Act.bind_run]
      rcases inner.jobsOfAll before later s' with ⟨_ | _ | _, _, _⟩ <;> rfl
    · rw [Act.bind_run, Act.bind_run]
      rcases inner.findJobIn key before later s' with ⟨_ | _ | _ | _, _, _⟩ <;> rfl

/-- A job can be found whose manager comes before the blank ones, but nothing can be listed. -/
theorem Validation.walks_up_to_blank_of_ideographic_space :
    let job : JobConfiguration := .sample "www-data" "prod" "hello"
    let named := Ledger.empty.saveJob immediateManager job
    let odd := named.saveJob "\u3000" (.sample "www-data" "prod" "other")
    let inner : Ledger → Store Unit := fun l => .fixed l.answers
    job.key.WellFormed ∧
      (layer (inner named)).allJobs .still () = (inner named).allJobs .still () ∧
      ((layer (inner odd)).allJobs .still ()).outcome =
        .ok (.error (.invalidArgument "manager_id 不能为空")) ∧
      (layer (inner odd)).findJob job.key .still () = (inner odd).findJob job.key .still () := by
  intro job named odd inner
  have hkey : job.key.WellFormed := by
    rw [← JobKey.isValid_iff]
    decide
  have hnamed : named.managerIds.toList = [immediateManager] := by decide +kernel
  have hodd : odd.managerIds.toList = immediateManager :: ["\u3000"] := by decide +kernel
  have hspeaks : ∀ m ∈ [immediateManager], Text.trim m ≠ [] := by decide
  have hjobs : (odd.jobsOf immediateManager).toList = [job] := by
    have hnone : ∀ m, Ledger.empty.jobsOf m = .empty := fun _ => rfl
    simp [odd, named, Ledger.jobsOf_saveJob, hnone, immediateManager, Keyed.place]
  have hlist : (inner odd).jobsOfAll [immediateManager] .still () =
      ⟨.ok (.ok [(immediateManager, job)]), .still, ()⟩ := by
    rw [Store.jobsOfAll_fixed (fun m => (odd.jobsOf m).toList) fun _ _ => rfl]
    simp only [List.flatMap_singleton, hjobs, List.map_singleton]
    rfl
  have hfind : (inner odd).findJobIn job.key [immediateManager] .still () =
      ⟨.ok (.ok (some (immediateManager, job))), .still, ()⟩ := by
    have hget : (odd.jobsOf immediateManager).get? job.key = some job :=
      Keyed.get?_of_mem (hjobs ▸ List.mem_singleton_self job)
    rw [Store.findJobIn_fixed (fun m => (odd.jobsOf m).get? job.key) fun _ _ => rfl]
    simp only [List.findSome?_singleton, hget, Option.map_some]
    rfl
  obtain ⟨hwalks, -⟩ := walks_up_to_blank (inner named) hkey .still ()
  obtain ⟨-, hblank⟩ := walks_up_to_blank (inner odd) hkey .still ()
  obtain ⟨hlisting, hsearch⟩ := hblank odd.managerIds .still () [immediateManager] "\u3000" [] rfl hodd
    hspeaks (by decide)
  rw [hlist] at hlisting
  rw [hfind] at hsearch
  refine ⟨hkey, (hwalks fun ids hids m hm => ?_).1, ?_, hsearch⟩
  · obtain rfl : named.managerIds = ids := Except.ok.inj (Except.ok.inj hids)
    exact hspeaks m (hnamed ▸ hm)
  · rw [hlisting]
    rfl

/-- One manager without a name is enough for nothing to be found or listed through validation. -/
theorem Validation.walks_refused_of_nameless_manager :
    let job : JobConfiguration := .sample "www-data" "prod" "hello"
    let odd : JobConfiguration := .sample "www-data" "prod" "other"
    let ledger := (Ledger.empty.saveJob immediateManager job).saveJob "" odd
    let inner : Store Unit := .fixed ledger.answers
    job.key.isValid = true ∧
      (inner.allJobs .still ()).outcome = .ok (.ok [("", odd), (immediateManager, job)]) ∧
      ((layer inner).allJobs .still ()).outcome =
        .ok (.error (.invalidArgument "manager_id 不能为空")) ∧
      (inner.findJob job.key .still ()).outcome = .ok (.ok (some (immediateManager, job))) ∧
      ((layer inner).findJob job.key .still ()).outcome =
        .ok (.error (.invalidArgument "manager_id 不能为空")) := by
  intro job odd ledger inner
  have hids : ledger.managerIds.toList = ["", immediateManager] := by decide +kernel
  have hlisting : ledger.listing = [("", odd), (immediateManager, job)] := by
    have hnone : ∀ m, Ledger.empty.jobsOf m = .empty := fun _ => rfl
    rw [Ledger.listing, hids]
    simp [ledger, Ledger.jobsOf_saveJob, hnone, Keyed.place, immediateManager]
  have hblank : Text.trim "" = [] := by decide
  refine ⟨by decide, ?_, ?_, ?_, ?_⟩
  · rw [Ledger.allJobs_eq, hlisting]
    rfl
  · have hrefused : (layer inner).allJobs .still () = _ :=
      (Store.allJobs_run rfl).trans (hids ▸ congrFun₂ (jobsOfAll_of_blank hblank _) _ _)
    rw [hrefused]
    rfl
  · have hother : odd.key ≠ job.key := by decide
    have hfind : ledger.listing.find? (fun entry => entry.2.key = job.key) =
        some (immediateManager, job) := by simp [hlisting, hother]
    rw [Ledger.findJob_eq, hfind]
    rfl
  · have hrefused : (layer inner).findJob job.key .still () = _ :=
      (Store.findJob_run rfl).trans (hids ▸ congrFun₂ (findJobIn_of_blank hblank job.key _) _ _)
    rw [hrefused]
    rfl

end Managers

/-! ## Reads of one job -/

/-- The call came back as one with an invalid argument. -/
def Step.IsRefused (r : Step σ (StoreResult α)) : Prop :=
  ∃ detail, r.outcome = .ok (.error (.invalidArgument detail))

/-- No call comes back as one with an invalid argument, as when none fails. -/
def Store.Obliging (store : Store σ) : Prop :=
  ∀ c env s, ¬ (store c env s).IsRefused

theorem Ledger.fixed_obliging (l : Ledger) : (Store.fixed l.answers : Store σ).Obliging := by
  rintro c env s ⟨detail, h⟩
  have h : l.answers c = .error (.invalidArgument detail) := Except.ok.inj h
  cases c with
  | deploy id =>
    rw [answers] at h
    split at h <;> cases h
  | _ => cases h

section OneJob

open Validation (layer)

variable {inner : Store ρ}

/-- What is refused over a store that refuses nothing is what the validation refuses. -/
theorem Validation.isRefused_iff (hinner : inner.Obliging) (c : Call) (env : Env) (s : ρ) :
    (layer inner c env s).IsRefused ↔ ¬ ∀ d ∈ c.demands, d.Met := by
  rw [← Call.flaw?_eq_none_iff]
  cases hflaw : c.flaw? with
  | none =>
    rw [layer_of_flaw?_eq_none inner hflaw]
    simpa using hinner c env s
  | some f =>
    rw [layer_of_flaw inner hflaw]
    simpa using ⟨f.message, rfl⟩

/-- Whether a call reaches the store under the validation. -/
theorem Validation.calls_eq_iff (c : Call) (env : Env) (calls : List Call) (s : ρ) :
    (layer inner.noted c env (calls, s)).state.1 = calls ++ [c] ↔ ∀ d ∈ c.demands, d.Met := by
  rw [← Call.flaw?_eq_none_iff]
  cases hflaw : c.flaw? with
  | none => simp [layer_of_flaw?_eq_none inner.noted hflaw, Store.noted_run]
  | some f => simp [layer_of_flaw inner.noted hflaw, Flaw.refusal]

/-- Over a store that refuses nothing, the lock of a job and the job itself under a manager with a name
are refused exactly for the keys that are not valid, but its active tasks exactly for those with a blank
part. So the three agree on a key if and only if it is valid or has a blank part. With any other key a
query for the job reaches the store. -/
theorem Validation.job_reads_agree_iff (hinner : inner.Obliging) (key : JobKey) {manager : String}
    (hmanager : Text.trim manager ≠ []) (env : Env) (calls : List Call) (s : ρ) :
    (((layer inner).jobLock key env s).IsRefused ↔ key.isValid = false) ∧
    ((layer inner (.job manager key) env s).IsRefused ↔ key.isValid = false) ∧
    (((layer inner).activeTasks key env s).IsRefused ↔ ∃ part ∈ key.parts, Text.trim part = []) ∧
    ((((layer inner).activeTasks key env s).IsRefused ↔ ((layer inner).jobLock key env s).IsRefused) ↔
      key.isValid = true ∨ ∃ part ∈ key.parts, Text.trim part = []) ∧
    ∀ q : TaskQuery, q.jobKey? = some key → q.slaveHosts = none →
      ((layer inner.noted (.tasks q) env (calls, s)).state.1 = calls ++ [.tasks q] ↔
        ∀ part ∈ key.parts, Text.trim part ≠ []) := by
  have hvalid : key.isValid = false ↔ ¬ key.WellFormed := by
    rw [← JobKey.isValid_iff, Bool.not_eq_true]
  have hlock : ((layer inner).jobLock key env s).IsRefused ↔ key.isValid = false := by
    rw [Store.jobLock, isRefused_iff hinner, hvalid]
    simp [Call.demands, Demand.Met]
  have hjob : (layer inner (.job manager key) env s).IsRefused ↔ key.isValid = false := by
    rw [isRefused_iff hinner, hvalid]
    simp [Call.demands, Demand.Met, hmanager]
  have hmet : ∀ q : TaskQuery, q.jobKey? = some key → q.slaveHosts = none →
      ((∀ d ∈ (Call.tasks q).demands, d.Met) ↔ ∀ part ∈ key.parts, Text.trim part ≠ []) := by
    intro q hq hhosts
    simpa [Call.demands, hhosts] using TaskQuery.demands_met_iff_of_jobKey? hq
  have htasks : ((layer inner).activeTasks key env s).IsRefused ↔
      ∃ part ∈ key.parts, Text.trim part = [] := by
    rw [Store.activeTasks, isRefused_iff hinner, hmet _ rfl rfl]
    simp
  refine ⟨hlock, hjob, htasks, ?_, fun q hq hhosts => ?_⟩
  · rw [hlock, htasks]
    constructor
    · intro hagree
      cases hkey : key.isValid with
      | true => exact Or.inl rfl
      | false => exact Or.inr (hagree.2 hkey)
    · rintro (hkey | hblank)
      · have hinvalid : ¬ key.isValid = false := by simp [hkey]
        exact iff_of_false (fun hblank => hinvalid (JobKey.isValid_eq_false_of_blank hblank)) hinvalid
      · exact iff_of_true hblank (JobKey.isValid_eq_false_of_blank hblank)
  · rw [calls_eq_iff, hmet q hq hhosts]

/-- The lock of a job whose name is blank is refused, and so are its tasks. -/
theorem Validation.job_reads_agree_iff_of_blank_name :
    let key : JobKey := ⟨"www-data", "prod", "\t"⟩
    let inner : Store Unit := .fixed Ledger.empty.answers
    inner.Obliging ∧ Text.trim immediateManager ≠ [] ∧
      ((layer inner).jobLock key .still ()).IsRefused ∧
      ((layer inner).activeTasks key .still ()).IsRefused := by
  intro key inner
  have hinner : inner.Obliging := Ledger.empty.fixed_obliging
  have hmanager : Text.trim immediateManager ≠ [] := by decide
  obtain ⟨hlock, -, htasks, -⟩ := job_reads_agree_iff hinner key hmanager .still [] ()
  have hblank : ∃ part ∈ key.parts, Text.trim part = [] := ⟨"\t", by simp [key, JobKey.parts], by decide⟩
  exact ⟨hinner, hmanager, hlock.2 (by decide), htasks.2 hblank⟩

/-- A key with a space in it is refused for the lock and for the job, but the active tasks of the job are
asked for under it. -/
theorem Validation.active_tasks_of_spaced_key :
    let key : JobKey := ⟨"www data", "prod", "hello"⟩
    let inner : Store Unit := .fixed Ledger.empty.answers
    let refused : StoreError := .invalidArgument "非法的作业键: www data/prod/hello"
    key.isValid = false ∧ inner.Obliging ∧
      ((layer inner).jobLock key .still ()).outcome = .ok (.error refused) ∧
      (layer inner (.job immediateManager key) .still ()).outcome = .ok (.error refused) ∧
      ((layer inner).activeTasks key .still ()).outcome = .ok (.ok .empty) ∧
      ((layer inner.noted).activeTasks key .still ([], ())).state.1 =
        [.tasks (TaskQuery.jobScoped key).active] ∧
      ¬ (((layer inner).activeTasks key .still ()).IsRefused ↔
        ((layer inner).jobLock key .still ()).IsRefused) := by
  intro key inner refused
  have hkey : key.isValid = false := by decide
  have hlock : ((layer inner).jobLock key .still ()).outcome = .ok (.error refused) := by
    have hflaw : (Call.lock (.job key)).flaw? = some (.malformedKey key) := by decide
    rw [Store.jobLock, layer_of_flaw inner hflaw]
    rfl
  have hjob : (layer inner (.job immediateManager key) .still ()).outcome = .ok (.error refused) := by
    have hflaw : (Call.job immediateManager key).flaw? = some (.malformedKey key) := by decide
    rw [layer_of_flaw inner hflaw]
    rfl
  have hpassed : (Call.tasks (TaskQuery.jobScoped key).active).flaw? = none := by decide
  have htasks : ((layer inner).activeTasks key .still ()).outcome = .ok (.ok .empty) := by
    rw [Store.activeTasks, layer_of_flaw?_eq_none inner hpassed]
    rfl
  have hcalled : ((layer inner.noted).activeTasks key .still ([], ())).state.1 =
      [.tasks (TaskQuery.jobScoped key).active] := by
    rw [Store.activeTasks, layer_of_flaw?_eq_none inner.noted hpassed]
    rfl
  refine ⟨hkey, Ledger.empty.fixed_obliging, hlock, hjob, htasks, hcalled, fun hagree => ?_⟩
  · obtain ⟨detail, hrefused⟩ := hagree.2 ⟨_, hlock⟩
    rw [htasks] at hrefused
    cases hrefused

end OneJob

end ClusterReads
