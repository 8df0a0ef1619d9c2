import Mathlib.Data.List.Forall2
import ClusterReads.Ledger
import ClusterReads.Proofs.Act
import ClusterReads.Proofs.Call
import ClusterReads.Proofs.Frame
import ClusterReads.Proofs.Run

/-!
# The audit trail is exact

What an event says of a call is laid down by relations of their own: of which operation a call is, which
text it is about, and how its result went. Main statement: over every run, a trail of any capacity holds the
events of the last audited calls in their order, one for each, and the results are those of the store under
the layer.
-/
namespace ClusterReads

/-! ## The trail -/

namespace AuditTrail

/-- The trail holds the last of these events, as many as it has room for. -/
def HoldsLast (t : AuditTrail) (events : List AuditEvent) : Prop :=
  t.events = events.drop (events.length - t.capacity)

@[simp] theorem record_capacity (t : AuditTrail) (e : AuditEvent) :
    (t.record e).capacity = t.capacity := by
  unfold record
  split <;> rfl

theorem holdsLast_new (capacity : Nat) : (new capacity).HoldsLast [] := by
  rw [HoldsLast, List.drop_nil]
  rfl

theorem HoldsLast.length_eq {t : AuditTrail} {events : List AuditEvent} (h : t.HoldsLast events) :
    t.events.length = min t.capacity events.length := by
  rw [h, List.length_drop]
  omega

/-- The oldest event is dropped exactly when there is no more room. -/
theorem HoldsLast.record {t : AuditTrail} {events : List AuditEvent} (h : t.HoldsLast events)
    (e : AuditEvent) : (t.record e).HoldsLast (events ++ [e]) := by
  have hlength := h.length_eq
  unfold HoldsLast at h ⊢
  rw [record_capacity, List.length_append, List.length_singleton]
  unfold AuditTrail.record
  by_cases hzero : t.capacity = 0
  · rw [if_pos hzero, h, hzero]
    simp
  · have hdrop : events.length - t.capacity + (t.events.length + 1 - t.capacity) =
        events.length + 1 - t.capacity := by omega
    have hle : events.length + 1 - t.capacity ≤ events.length := by omega
    rw [if_neg hzero]
    change t.events.drop (t.events.length + 1 - t.capacity) ++ [e] = _
    rw [List.drop_append_of_le_length hle, ← hdrop, ← List.drop_drop, ← h]

end AuditTrail

namespace Auditing

variable {ρ : Type} {inner : Store ρ} {operations : SortedSet Operation}

/-! ## What an event says -/

/-- The five lookups whose answer is that nothing is there. -/
inductive FindsNothing : (c : Call) → c.Answer → Prop
  | frameworkId : FindsNothing .frameworkId (none : Option String)
  | job (manager : String) (key : JobKey) :
    FindsNothing (.job manager key) (none : Option JobConfiguration)
  | lock (key : LockKey) : FindsNothing (.lock key) (none : Option Lock)
  | quota (role : String) : FindsNothing (.quota role) (none : Option Resources)
  | host (name : String) : FindsNothing (.host name) (none : Option HostAttributes)

/-- The text that a call is about, if it is about one. -/
inductive Concerns : Call → Option String → Prop
  | manager (manager : String) : Concerns (.jobs manager) (some manager)
  | job (manager role environment name : String) :
    Concerns (.job manager ⟨role, environment, name⟩)
      (some (manager ++ ":" ++ (role ++ "/" ++ environment ++ "/" ++ name)))
  | singleJob {query : TaskQuery} {role environment name : String} (hrole : query.role = some role)
    (henvironment : query.environment = some environment) (hname : query.jobName = some name) :
    Concerns (.tasks query) (some (role ++ "/" ++ environment ++ "/" ++ name))
  | anyTasks {query : TaskQuery}
    (h : query.role = none ∨ query.environment = none ∨ query.jobName = none) :
    Concerns (.tasks query) none
  | lock (role environment name : String) :
    Concerns (.lock (.job ⟨role, environment, name⟩))
      (some ("job:" ++ (role ++ "/" ++ environment ++ "/" ++ name)))
  | quota (role : String) : Concerns (.quota role) (some role)
  | host (name : String) : Concerns (.host name) (some name)
  | deploy (id : String) : Concerns (.deploy id) (some id)
  | frameworkId : Concerns .frameworkId none
  | managerIds : Concerns .managerIds none
  | locks : Concerns .locks none
  | quotas : Concerns .quotas none
  | hosts : Concerns .hosts none
  | deploys : Concerns .deploys none

/-- How a call went, by its result. -/
inductive Went (c : Call) : StoreResult c.Answer → AuditOutcome → Prop
  | failed (e : StoreError) : Went c (.error e) (.failed e.message)
  | absent {a : c.Answer} (h : FindsNothing c a) : Went c (.ok a) .absent
  | success {a : c.Answer} (h : ¬ FindsNothing c a) : Went c (.ok a) .success

/-- The event tells of this visit to the store: its operation, its subject, how it went and when. -/
structure Reports (inner : Store ρ) (v : Visit ρ) (e : AuditEvent) : Prop where
  operation : v.call.Performs e.operation
  subject : Concerns v.call e.subject
  outcome : ∃ result, (inner.serve v).outcome = .ok result ∧ Went v.call result e.outcome
  timestamp : e.timestamp = (inner.serve v).env.clock.date

theorem isAbsent_iff (c : Call) (a : c.Answer) : c.isAbsent a = true ↔ FindsNothing c a := by
  constructor
  · intro h
    cases c with
    | frameworkId | job | lock | quota | host =>
      cases a with
      | none => constructor
      | some a => cases h
    | jobs | managerIds | tasks | locks | quotas | hosts | deploys | deploy => cases h
  · intro h
    cases h <;> rfl

theorem went_outcome (c : Call) (result : StoreResult c.Answer) :
    Went c result (Auditing.outcome c result) := by
  cases result with
  | error e => exact .failed e
  | ok a =>
    unfold Auditing.outcome
    by_cases h : c.isAbsent a = true
    · simp only [h, if_true]
      exact .absent ((isAbsent_iff c a).1 h)
    · simp only [h]
      exact .success fun hnothing => h ((isAbsent_iff c a).2 hnothing)

theorem concerns_subject (c : Call) : Concerns c c.subject? := by
  cases c with
  | tasks query =>
    obtain ⟨role, environment, name, -, -, -, -⟩ := query
    cases role with
    | none => exact .anyTasks (.inl rfl)
    | some role =>
      cases environment with
      | none => exact .anyTasks (.inr (.inl rfl))
      | some environment =>
        cases name with
        | none => exact .anyTasks (.inr (.inr rfl))
        | some name => exact .singleJob rfl rfl rfl
  | lock key =>
    cases key
    constructor
  | _ => constructor

/-! ## One call -/

/-- An audited call ends as the call itself does, and leaves one event if it gave a result. -/
theorem layer_eq (c : Call) (env : Env) (s : ρ) : layer .trail operations inner c env s =
    match inner c env s with
    | ⟨.ok result, later, s'⟩ => ⟨.ok result, if operations.contains (label c) then
        { later with trail := later.trail.record (event c result later.clock.date) } else later, s'⟩
    | ⟨.error fault, later, s'⟩ => ⟨.error fault, later, s'⟩ := by
  rw [layer, Act.bind_run]
  rcases inner c env s with ⟨fault | result, later, s'⟩
  · rfl
  · by_cases h : operations.contains (label c)
    · simp only [h, if_true]
      rfl
    · simp only [h]
      rfl

/-- The layer passes on what the store under it gives. -/
theorem layer_passes (v : Visit ρ) :
    ((layer .trail operations inner).serve v).outcome = (inner.serve v).outcome ∧
      ((layer .trail operations inner).serve v).state = (inner.serve v).state := by
  rw [Store.serve, Store.serve, layer_eq]
  rcases inner v.call v.env v.state with ⟨_ | _, _, _⟩ <;> exact ⟨rfl, rfl⟩

/-- The call is one of an audited operation. -/
def Audits (operations : SortedSet Operation) (c : Call) : Prop :=
  ∃ o, operations.contains o = true ∧ c.Performs o

theorem audits_iff_label {c : Call} : Audits operations c ↔ operations.contains (label c) = true := by
  simp [Audits, performs_iff_label]

instance (operations : SortedSet Operation) (c : Call) : Decidable (Audits operations c) :=
  decidable_of_iff _ audits_iff_label.symm

/-- The visit is one of an audited operation, and gave a result. -/
def leavesEvent (operations : SortedSet Operation) (inner : Store ρ) (v : Visit ρ) : Bool :=
  decide (Audits operations v.call) && (inner.serve v).outcome.isOk

/-- A call adds the event that reports it, or none. -/
theorem trail_cases (operations : SortedSet Operation) (hinner : inner.Keeps Env.trail) (v : Visit ρ) :
    (∃ e, leavesEvent operations inner v = true ∧ Reports inner v e ∧
      ((layer .trail operations inner).serve v).env.trail = v.env.trail.record e) ∨
    (leavesEvent operations inner v = false ∧
      ((layer .trail operations inner).serve v).env.trail = v.env.trail) := by
  have hkeeps := hinner v.call v.env v.state
  have hlayer : (layer .trail operations inner).serve v = _ := layer_eq v.call v.env v.state
  rw [hlayer]
  rcases hserve : inner v.call v.env v.state with ⟨fault | result, later, s'⟩
  · rw [hserve] at hkeeps
    refine Or.inr ⟨?_, hkeeps⟩
    simp [leavesEvent, Store.serve, hserve, Except.isOk, Except.toBool]
  · rw [hserve] at hkeeps
    have hok : (inner.serve v).outcome.isOk = true := by
      simp [Store.serve, hserve, Except.isOk, Except.toBool]
    by_cases hoperation : operations.contains (label v.call) = true
    · refine Or.inl ⟨event v.call result later.clock.date,
        by simp [leavesEvent, audits_iff_label, hoperation, hok],
        ⟨performs_label v.call, concerns_subject v.call, ⟨result, ?_, went_outcome v.call result⟩, ?_⟩,
        ?_⟩
      · rw [Store.serve, hserve]
      · rw [Store.serve, hserve]
        rfl
      · simp only [hoperation, if_true]
        rw [← hkeeps]
    · refine Or.inr ⟨by simp [leavesEvent, audits_iff_label, hoperation], ?_⟩
      simp only [hoperation]
      exact hkeeps

/-! ## Runs -/

/-- Others do as they like, but leave the trail alone. -/
def SpareTrail : Store.Others ρ :=
  fun env _ later _ => later.trail = env.trail

variable {capacity : Nat} {start env : Env} {first s : ρ} {past : List (Visit ρ)}

theorem exists_events (hinner : inner.Keeps Env.trail) (hstart : start.trail = .new capacity)
    (hrun : (layer .trail operations inner).Run SpareTrail start first past env s) :
    ∃ events, List.Forall₂ (Reports inner) (past.filter (leavesEvent operations inner)) events ∧
      env.trail.HoldsLast events ∧ env.trail.capacity = capacity := by
  induction hrun with
  | empty =>
    rw [hstart]
    exact ⟨[], .nil, AuditTrail.holdsLast_new capacity, rfl⟩
  | between _ hothers ih =>
    obtain ⟨events, hreports, hholds, hcapacity⟩ := ih
    have htrail : _ = _ := hothers
    rw [htrail]
    exact ⟨events, hreports, hholds, hcapacity⟩
  | @call past env s c _ ih =>
    obtain ⟨events, hreports, hholds, hcapacity⟩ := ih
    rw [List.filter_append]
    rcases trail_cases operations hinner ⟨c, env, s⟩ with
      ⟨e, hleaves, hreport, htrail⟩ | ⟨hleaves, htrail⟩
    · have htrail : (layer .trail operations inner c env s).env.trail = env.trail.record e := htrail
      rw [htrail, List.filter_cons_of_pos hleaves, List.filter_nil]
      refine ⟨events ++ [e], List.rel_append hreports (.cons hreport .nil), hholds.record e, ?_⟩
      rw [AuditTrail.record_capacity, hcapacity]
    · have htrail : (layer .trail operations inner c env s).env.trail = env.trail := htrail
      rw [htrail, List.filter_cons_of_neg (by simp [hleaves]), List.filter_nil, List.append_nil]
      exact ⟨events, hreports, hholds, hcapacity⟩

/-- Whatever calls were made of a store that records them in a trail, each was answered as by the store
under it; and of the events, one for each audited call that gave a result, the trail holds the last, in
their order, as many as it has room for. -/
theorem trail_exact (hinner : inner.Keeps Env.trail) (hstart : start.trail = .new capacity)
    (hrun : (layer .trail operations inner).Run SpareTrail start first past env s) :
    (∀ v ∈ past, ((layer .trail operations inner).serve v).outcome = (inner.serve v).outcome ∧
      ((layer .trail operations inner).serve v).state = (inner.serve v).state) ∧
    (∃ events, List.Forall₂ (Reports inner) (past.filter (leavesEvent operations inner)) events ∧
      env.trail.events = events.drop (events.length - capacity) ∧
      env.trail.events.length = min capacity events.length) ∧
    (capacity = 0 → env.trail.events = []) := by
  obtain ⟨events, hreports, hholds, hcapacity⟩ := exists_events hinner hstart hrun
  have hlength := hholds.length_eq
  rw [AuditTrail.HoldsLast] at hholds
  rw [hcapacity] at hholds hlength
  refine ⟨fun v _ => layer_passes v, ⟨events, hreports, hholds, hlength⟩, ?_⟩
  intro hzero
  rw [hzero, Nat.zero_min] at hlength
  exact List.eq_nil_of_length_eq_zero hlength

/-- With room for two events, the trail tells of the locks and of the last of two lookups of quotas; the
lookup of a host is not audited. -/
theorem trail_exact_with_room_for_two :
    let inner : Store Unit := .fixed Ledger.empty.answers
    let operations : SortedSet Operation := .ofList [.fetchQuota, .fetchLocks]
    let audited := layer .trail operations inner
    let start : Env := { Env.still with trail := .new 2 }
    let first := audited (.quota "r") start ()
    let second := audited .locks first.env ()
    let third := audited (.host "h") second.env ()
    let fourth := audited (.quota "t") third.env ()
    inner.Keeps Env.trail ∧ ∃ locks quota, fourth.env.trail.events = [locks, quota] ∧
      locks.operation = .fetchLocks ∧ locks.subject = none ∧ locks.outcome = .success ∧
      quota.operation = .fetchQuota ∧ quota.subject = some "t" ∧ quota.outcome = .absent := by
  intro inner operations audited start first second third fourth
  have hinner : inner.Keeps Env.trail := fun _ _ _ => rfl
  have hrun : audited.Run SpareTrail start () [⟨.quota "r", start, ()⟩, ⟨.locks, first.env, ()⟩,
      ⟨.host "h", second.env, ()⟩, ⟨.quota "t", third.env, ()⟩] fourth.env () :=
    (((Store.Run.empty.call (.quota "r")).call .locks).call (.host "h")).call (.quota "t")
  obtain ⟨-, ⟨events, hreports, hevents, -⟩, -⟩ := trail_exact hinner rfl hrun
  have hleave : [(⟨.quota "r", start, ()⟩ : Visit Unit), ⟨.locks, first.env, ()⟩,
      ⟨.host "h", second.env, ()⟩, ⟨.quota "t", third.env, ()⟩].filter (leavesEvent operations inner) =
      [⟨.quota "r", start, ()⟩, ⟨.locks, first.env, ()⟩, ⟨.quota "t", third.env, ()⟩] := rfl
  rw [hleave] at hreports
  obtain ⟨_, rest, -, hrest, rfl⟩ := List.forall₂_cons_left_iff.1 hreports
  obtain ⟨⟨operation, subject, outcome, timestamp⟩, last, hlocks, hlast, rfl⟩ :=
    List.forall₂_cons_left_iff.1 hrest
  obtain ⟨⟨operation', subject', outcome', timestamp'⟩, _, hquota, hnone, rfl⟩ :=
    List.forall₂_cons_left_iff.1 hlast
  obtain rfl := List.forall₂_nil_left_iff.1 hnone
  obtain ⟨⟨⟩, ⟨⟩, ⟨result, hresult, hwent⟩, -⟩ := hlocks
  obtain ⟨⟨⟩, ⟨⟩, ⟨result', hresult', hwent'⟩, -⟩ := hquota
  refine ⟨hinner, _, _, hevents, rfl, rfl, ?_, rfl, rfl, ?_⟩
  · cases hresult
    cases hwent with
    | success h => rfl
    | absent h => cases h
  · cases hresult'
    cases hwent' with
    | absent h => rfl
    | success h => exact absurd (FindsNothing.quota "t") h

end Auditing
end ClusterReads
