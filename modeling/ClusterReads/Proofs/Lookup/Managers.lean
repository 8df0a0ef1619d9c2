import ClusterReads.Lookup

/-!
# Walks over managers

A listing asks the managers in turn for their jobs, and a search asks them in turn for one job. Main
statements: a walk over two lists of managers is the walk over the first and, unless that has ended it,
the walk over the second; on a fixed store a listing joins what the managers have, and a search takes
the first that is found.
-/
namespace ClusterReads
namespace Store

variable {σ : Type}

/-! ## Walks in parts -/

/-- A listing depends on the jobs of the managers it is about. -/
theorem jobsOfAll_congr {s t : Store σ} {managers : List String}
    (h : ∀ m ∈ managers, s (.jobs m) = t (.jobs m)) : s.jobsOfAll managers = t.jobsOfAll managers := by
  induction managers with
  | nil => rfl
  | cons m rest ih =>
    rw [List.forall_mem_cons] at h
    simp only [jobsOfAll, h.1, ih h.2]

theorem findJobIn_congr {s t : Store σ} {key : JobKey} {managers : List String}
    (h : ∀ m ∈ managers, s (.job m key) = t (.job m key)) :
    s.findJobIn key managers = t.findJobIn key managers := by
  induction managers with
  | nil => rfl
  | cons m rest ih =>
    rw [List.forall_mem_cons] at h
    simp only [findJobIn, h.1, ih h.2]

/-- An error ends a listing, and what has been listed comes first. -/
theorem jobsOfAll_append (s : Store σ) (first second : List String) :
    s.jobsOfAll (first ++ second) = do
      match ← s.jobsOfAll first with
      | .error e => return .error e
      | .ok front =>
        let back ← s.jobsOfAll second
        return back.map (front ++ ·) := by
  induction first with
  | nil =>
    have hid : Except.map (fun pairs : List (String × JobConfiguration) => pairs) =
        (id : StoreResult _ → StoreResult _) := by
      funext back
      cases back <;> rfl
    simp [jobsOfAll, hid]
  | cons m rest ih =>
    simp only [List.cons_append, jobsOfAll, bind_assoc]
    congr 1
    funext jobs
    rcases jobs with e | jobs
    · simp
    · simp only [ih, bind_assoc, pure_bind]
      congr 1
      funext others
      rcases others with e | others
      · simp [Except.map]
      · simp only [Except.map, pure_bind, bind_assoc]
        congr 1
        funext back
        rcases back with e | back <;> simp

/-- A job that is found ends a search, and so does an error. -/
theorem findJobIn_append (s : Store σ) (key : JobKey) (first second : List String) :
    s.findJobIn key (first ++ second) = do
      match ← s.findJobIn key first with
      | .ok none => s.findJobIn key second
      | ended => return ended := by
  induction first with
  | nil => simp [findJobIn]
  | cons m rest ih =>
    simp only [List.cons_append, findJobIn, bind_assoc]
    congr 1
    funext found
    rcases found with e | _ | job
    · simp
    · simp only [ih]
    · simp

/-! ## Whole walks -/

/-- A listing is the walk over the managers there are. -/
theorem allJobs_run {s : Store σ} {env later : Env} {st st' : σ} {ids : SortedSet String}
    (h : s .managerIds env st = ⟨.ok (.ok ids), later, st'⟩) :
    s.allJobs env st = s.jobsOfAll ids.toList later st' := by
  rw [allJobs, Act.bind_run, h]

theorem findJob_run {s : Store σ} {key : JobKey} {env later : Env} {st st' : σ} {ids : SortedSet String}
    (h : s .managerIds env st = ⟨.ok (.ok ids), later, st'⟩) :
    s.findJob key env st = s.findJobIn key ids.toList later st' := by
  rw [findJob, Act.bind_run, h]

/-- A listing depends on which managers there are, and on the jobs of those. -/
theorem allJobs_congr {s t : Store σ} {env : Env} {st : σ} (hids : s .managerIds = t .managerIds)
    (h : ∀ ids, (s .managerIds env st).outcome = .ok (.ok ids) →
      ∀ m ∈ ids.toList, s (.jobs m) = t (.jobs m)) : s.allJobs env st = t.allJobs env st := by
  unfold allJobs
  rw [Act.bind_run, Act.bind_run, ← hids]
  rcases hrun : s .managerIds env st with ⟨_ | _ | ids, later, st'⟩
  · rfl
  · rfl
  · have hjobs : ∀ m ∈ ids.toList, s (.jobs m) = t (.jobs m) := h ids (by rw [hrun])
    simp only [jobsOfAll_congr hjobs]

theorem findJob_congr {s t : Store σ} {key : JobKey} {env : Env} {st : σ}
    (hids : s .managerIds = t .managerIds)
    (h : ∀ ids, (s .managerIds env st).outcome = .ok (.ok ids) →
      ∀ m ∈ ids.toList, s (.job m key) = t (.job m key)) :
    s.findJob key env st = t.findJob key env st := by
  unfold findJob
  rw [Act.bind_run, Act.bind_run, ← hids]
  rcases hrun : s .managerIds env st with ⟨_ | _ | ids, later, st'⟩
  · rfl
  · rfl
  · have hjobs : ∀ m ∈ ids.toList, s (.job m key) = t (.job m key) := h ids (by rw [hrun])
    simp only [findJobIn_congr hjobs]

/-! ## Fixed stores -/

variable {answers : Answers}

theorem jobsOfAll_fixed (jobs : String → List JobConfiguration) {managers : List String}
    (h : ∀ m ∈ managers, answers (.jobs m) = .ok (jobs m)) :
    (fixed answers : Store σ).jobsOfAll managers =
      pure (.ok (managers.flatMap fun m => (jobs m).map fun job => (m, job))) := by
  induction managers with
  | nil => rfl
  | cons m rest ih =>
    rw [List.forall_mem_cons] at h
    simp [jobsOfAll, fixed, h.1, ih h.2, Except.map]

theorem findJobIn_fixed {key : JobKey} (found : String → Option JobConfiguration)
    {managers : List String} (h : ∀ m ∈ managers, answers (.job m key) = .ok (found m)) :
    (fixed answers : Store σ).findJobIn key managers =
      pure (.ok (managers.findSome? fun m => (found m).map fun job => (m, job))) := by
  induction managers with
  | nil => rfl
  | cons m rest ih =>
    rw [List.forall_mem_cons] at h
    cases hfound : found m <;> simp [findJobIn, fixed, h.1, ih h.2, hfound]

end Store
end ClusterReads
