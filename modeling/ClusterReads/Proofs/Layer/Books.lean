import ClusterReads.Proofs.Frame
import ClusterReads.Proofs.Keyed
import ClusterReads.Proofs.Run
import ClusterReads.Proofs.Layer.Auditing
import ClusterReads.Proofs.Layer.Fate
import ClusterReads.Proofs.Layer.Transparency

/-!
# The books of a full stack

A stack of all four layers keeps three books: statistics by operation, an audit trail, and the calls that
its base counts. Main statement: after every run the three agree, operation by operation, with the calls
that were made, refused and served from the cache.
-/
namespace ClusterReads

open CacheService (table)

variable {σ ρ : Type}

/-! ## Entries of the books -/

namespace AuditTrail

/-- With room left, an event is added and none is dropped. -/
theorem record_of_room {t : AuditTrail} (h : t.events.length < t.capacity) (e : AuditEvent) :
    (t.record e).events = t.events ++ [e] := by
  have hzero : t.capacity ≠ 0 := by omega
  have hdrop : t.events.length + 1 - t.capacity = 0 := by omega
  unfold record
  rw [if_neg hzero, hdrop, List.drop_zero]

theorem eventsFor_record_of_room {t : AuditTrail} (h : t.events.length < t.capacity)
    (e : AuditEvent) (o : Operation) :
    (t.record e).eventsFor o = t.eventsFor o ++ if e.operation = o then [e] else [] := by
  unfold eventsFor
  rw [record_of_room h, List.filter_append, List.filter_singleton]
  simp

end AuditTrail

/-- The event tells of a failure. -/
def AuditOutcome.isFailed : AuditOutcome → Bool
  | .failed _ => true
  | .success | .absent => false

theorem Auditing.isFailed_outcome (c : Call) (result : StoreResult c.Answer) :
    (Auditing.outcome c result).isFailed = Instrumentation.isError result := by
  cases result with
  | error e => rfl
  | ok a =>
    by_cases h : c.isAbsent a = true <;>
      simp [Auditing.outcome, h, AuditOutcome.isFailed, Instrumentation.isError]

theorem CallCounts.of_add (counts : CallCounts) (o o' : Operation) :
    (counts.add o).of o' = counts.of o' + if o = o' then 1 else 0 := by
  unfold CallCounts.of CallCounts.add
  rw [SortedMap.lookup?_put]
  by_cases h : o = o'
  · subst h
    simp [CallCounts.of]
  · simp [h]

/-! ## One call of the stack -/

/-- The states of the four layers, beside that of the base. -/
abbrev FullState (σ : Type) : Type :=
  InstrumentationState × Unit × CachingState CacheTable × Unit × σ

/-- All four layers, with a trail and a table of the stack's own. -/
def fullLayers (settings : Instrumentation.Settings) (audited : SortedSet Operation)
    (capacity ttl : Nat) : List Layer :=
  [.instrumentation settings, .audit .trail audited, .caching (.own capacity) ttl, .validation]

def fullStack (settings : Instrumentation.Settings) (audited : SortedSet Operation)
    (capacity ttl : Nat) (base : Store σ) : Store (FullState σ) :=
  Layers.store base (fullLayers settings audited capacity ttl)

/-- What the cache of the stack would serve a visit; the clock was read once before. -/
def servedFromCache? (v : Visit (FullState σ)) : Option v.call.Answer :=
  Caching.served? v.call v.state.2.2.1.cache v.env.tick.clock.reading

/-- The visit ends with an error of the store. -/
def Store.failed (store : Store σ) (v : Visit σ) : Bool :=
  match (store.serve v).outcome with
  | .ok (.error _) => true
  | .ok (.ok _) | .error _ => false

/-- What one visit enters into the books of a stack. -/
structure Entered (audited : SortedSet Operation) (base : Store σ) (stack : Store (FullState σ))
    (v : Visit (FullState σ)) : Prop where
  precedes : v.env.Precedes (stack.serve v).env
  flawless : Caching.Flawless (stack.serve v).state.2.2.1.cache
  fate : ∃ result, (stack.serve v).outcome = .ok result ∧
    Fate base v.call v.state.2.2.1.cache v.env.tick.clock.reading v.state.2.2.2.2 result
      (stack.serve v).state.2.2.2.2
  calls : ∀ o, (Instrumentation.statsOf (stack.serve v).state.1 o).calls =
    (Instrumentation.statsOf v.state.1 o).calls + if v.call.Performs o then 1 else 0
  errors : ∀ o, (Instrumentation.statsOf (stack.serve v).state.1 o).errors =
    (Instrumentation.statsOf v.state.1 o).errors +
      if v.call.Performs o ∧ stack.failed v = true then 1 else 0
  recorded : Auditing.Audits audited v.call → ∃ e : AuditEvent,
    (stack.serve v).env.trail = v.env.trail.record e ∧ v.call.Performs e.operation ∧
      e.outcome.isFailed = stack.failed v
  unrecorded : ¬ Auditing.Audits audited v.call → (stack.serve v).env.trail = v.env.trail

namespace Entered

variable {audited : SortedSet Operation} {base : Store σ} {stack : Store (FullState σ)}
  {v : Visit (FullState σ)}

theorem capacity_eq (h : Entered audited base stack v) :
    (stack.serve v).env.trail.capacity = v.env.trail.capacity := by
  by_cases hv : Auditing.Audits audited v.call
  · obtain ⟨e, htrail, -⟩ := h.recorded hv
    rw [htrail, AuditTrail.record_capacity]
  · rw [h.unrecorded hv]

theorem length_le (h : Entered audited base stack v)
    (hroom : v.env.trail.events.length < v.env.trail.capacity) :
    (stack.serve v).env.trail.events.length ≤ v.env.trail.events.length + 1 := by
  by_cases hv : Auditing.Audits audited v.call
  · obtain ⟨e, htrail, -⟩ := h.recorded hv
    simp [htrail, AuditTrail.record_of_room hroom]
  · rw [h.unrecorded hv]
    exact Nat.le_succ _

/-- With room left, one event is added for an audited operation, and it tells whether the visit
failed. -/
theorem eventsFor (h : Entered audited base stack v)
    (hroom : v.env.trail.events.length < v.env.trail.capacity) (o : Operation) :
    ((stack.serve v).env.trail.eventsFor o).length = (v.env.trail.eventsFor o).length +
      (if v.call.Performs o ∧ audited.contains o = true then 1 else 0) ∧
    ((stack.serve v).env.trail.eventsFor o).countP (·.outcome.isFailed) =
      (v.env.trail.eventsFor o).countP (·.outcome.isFailed) +
        if v.call.Performs o ∧ stack.failed v = true ∧ audited.contains o = true then 1
        else 0 := by
  by_cases hv : Auditing.Audits audited v.call
  · obtain ⟨e, htrail, hperforms, houtcome⟩ := h.recorded hv
    obtain ⟨o', haudited, hperforms'⟩ := hv
    obtain rfl := hperforms.unique hperforms'
    rw [htrail, AuditTrail.eventsFor_record_of_room hroom, ← houtcome]
    by_cases hlabel : e.operation = o
    · subst hlabel
      simp [hperforms, haudited, List.countP_singleton]
    · simp [hperforms.iff_eq, hlabel]
  · -- an audited operation is not the one that this call is of
    have ho : v.call.Performs o → audited.contains o = false := fun ho =>
      Bool.eq_false_iff.2 fun haudited => hv ⟨o, haudited, ho⟩
    rw [h.unrecorded hv]
    by_cases hperforms : v.call.Performs o
    · simp [ho hperforms]
    · simp [hperforms]

end Entered

section Stack

variable {settings : Instrumentation.Settings} {audited : SortedSet Operation} {capacity ttl : Nat}
  {base : Store σ}

/-- A call has its fate in the cache, is recorded in the trail if it is audited, and is entered into
the statistics. -/
theorem fullStack_run (settings : Instrumentation.Settings) (audited : SortedSet Operation)
    (capacity : Nat) (hbase : base.Returns) (hkeeps : base.Keeps Env.trail) (c : Call) {env : Env}
    {s : FullState σ} (ht : Caching.Flawless s.2.2.1.cache) (hspan : env.clock.Spans ttl) :
    ∃ result later t failures s' elapsed slow date,
      fullStack settings audited capacity ttl base c env s =
        ⟨.ok result, later, (s.1.put (Instrumentation.label c)
          ((Instrumentation.statsOf s.1 (Instrumentation.label c)).add elapsed
            (Instrumentation.isError result) slow), (), ⟨t, failures⟩, (), s')⟩ ∧
      env.Precedes later ∧ Caching.Flawless t ∧
      Fate base c s.2.2.1.cache env.tick.clock.reading s.2.2.2.2 result s' ∧
      later.trail = if audited.contains (Auditing.label c) then
        env.trail.record (Auditing.event c result date) else env.trail := by
  -- the reading of the timer and its span come before the cache
  let inside : Env := Instrumentation.begun c env
  have hinside : env.Precedes inside := .of_tick rfl
  obtain ⟨result, env₂, t, failures, s', hread, hlater, hflawless, hfate⟩ :=
    Caching.layer_fate hbase (s := s.2.2) c ht (hinside.spans hspan)
  have htrail : env₂.trail = env.trail := by
    have hread' := (Caching.layer_keeps Env.apart_trail (CacheService.table_keeps Env.apart_trail)
      ttl (Validation.layer_keeps Env.apart_trail hkeeps).onSnd) c inside s.2.2
    rwa [hread] at hread'
  let left : Env := if audited.contains (Auditing.label c) then
    { env₂ with trail := env₂.trail.record (Auditing.event c result env₂.clock.date) } else env₂
  have hleft : env₂.Precedes left := by
    refine .of_clock_eq ?_
    unfold left
    split <;> rfl
  have haudit : Auditing.layer .trail audited (Caching.layer table ttl
      (Store.onSnd (Validation.layer base))) c inside s.2.2 =
      ⟨.ok result, left, (⟨t, failures⟩, (), s')⟩ := by
    rw [Auditing.layer_eq, hread]
  obtain ⟨later, hrun, hclock, -, htrail'⟩ :=
    Instrumentation.layer_run_ok settings (Store.onSnd_run haudit)
  refine ⟨result, later, t, failures, s', _, _, env₂.clock.date, hrun,
    hinside.trans (hlater.trans (hleft.trans (.of_tick hclock))), hflawless, hfate, ?_⟩
  rw [htrail', ← htrail]
  unfold left
  split <;> rfl

theorem fullStack_entered (hbase : base.Returns) (hkeeps : base.Keeps Env.trail)
    {v : Visit (FullState σ)} (ht : Caching.Flawless v.state.2.2.1.cache)
    (hspan : v.env.clock.Spans ttl) :
    Entered audited base (fullStack settings audited capacity ttl base) v := by
  obtain ⟨c, env, s⟩ := v
  obtain ⟨result, later, t, failures, s', elapsed, slow, date, hrun, hlater, hflawless, hfate,
    htrail⟩ := fullStack_run settings audited capacity hbase hkeeps c ht hspan
  have hserve : (fullStack settings audited capacity ttl base).serve ⟨c, env, s⟩ = _ := hrun
  have hfailed : (fullStack settings audited capacity ttl base).failed ⟨c, env, s⟩ =
      Instrumentation.isError result := by
    rw [Store.failed, hserve]
    cases result <;> rfl
  constructor
  case precedes =>
    rw [hserve]
    exact hlater
  case flawless =>
    rw [hserve]
    exact hflawless
  case fate =>
    rw [hserve]
    exact ⟨result, rfl, hfate⟩
  case calls =>
    intro o
    rw [hserve, Instrumentation.statsOf_put]
    by_cases ho : Instrumentation.label c = o
    · subst ho
      simp [OperationStats.add, Instrumentation.performs_label]
    · simp [Instrumentation.performs_iff_label, ho]
  case errors =>
    intro o
    rw [hserve, hfailed, Instrumentation.statsOf_put]
    by_cases ho : Instrumentation.label c = o
    · subst ho
      cases Instrumentation.isError result <;>
        simp [OperationStats.add, Instrumentation.performs_label]
    · simp [Instrumentation.performs_iff_label, ho]
  case recorded =>
    intro haudits
    rw [if_pos (Auditing.audits_iff_label.1 haudits)] at htrail
    rw [hserve, hfailed]
    exact ⟨Auditing.event c result date, htrail, Auditing.performs_label c,
      Auditing.isFailed_outcome c result⟩
  case unrecorded =>
    intro haudits
    rw [if_neg fun hlabel => haudits (Auditing.audits_iff_label.2 hlabel)] at htrail
    rw [hserve]
    exact htrail

end Stack

/-! ## Counting visits -/

/-- How many visits of an operation pass a test. -/
def Visit.count (past : List (Visit σ)) (o : Operation) (p : Visit σ → Bool) : Nat :=
  past.countP fun v => decide (v.call.Performs o) && p v

theorem Visit.count_nil (o : Operation) (p : Visit σ → Bool) : Visit.count [] o p = 0 := rfl

theorem Visit.count_snoc (past : List (Visit σ)) (v : Visit σ) (o : Operation)
    (p : Visit σ → Bool) : Visit.count (past ++ [v]) o p =
      Visit.count past o p + if v.call.Performs o ∧ p v = true then 1 else 0 := by
  unfold Visit.count
  rw [List.countP_append, List.countP_singleton]
  simp

/-- The visit is one with a flaw. -/
def Visit.hasFlaw (v : Visit σ) : Bool :=
  v.call.flaw?.isSome

/-! ## Runs of the stack -/

/-- What a base holds that counts and notes the calls that reach it. -/
abbrev Watched (ρ : Type) : Type :=
  CallCounts × List Call × ρ

def Store.watched (inner : Store ρ) : Store (Watched ρ) :=
  inner.noted.counted

/-- A call adds to the count of its operation unless it is refused or served. -/
theorem Fate.counts {inner : Store ρ} {c : Call} {t : CacheTable} {now : Nat} {s s' : Watched ρ}
    {result : StoreResult c.Answer} (h : Fate inner.watched c t now s result s') (o : Operation) :
    s'.1.of o + (if c.Performs o ∧ c.flaw?.isSome = true then 1 else 0) +
      (if c.Performs o ∧ (Caching.served? c t now).isSome = true then 1 else 0) =
        s.1.of o + if c.Performs o then 1 else 0 := by
  cases h with
  | refused hflaw hserved => simp [hflaw, hserved]
  | served hflaw hserved => simp [hflaw, hserved]
  | @passed env later _ _ hflaw hserved hrun =>
    have hcounts : s'.1 = s.1.add (CallCounts.label c) := by
      have hstate := congrArg Step.state hrun
      exact (congrArg Prod.fst hstate).symm
    rw [hcounts, CallCounts.of_add]
    simp [hflaw, hserved, CallCounts.performs_iff_label]

/-- What the base is called with was noted before, or has no flaw. -/
theorem Fate.noted_cases {inner : Store ρ} {c : Call} {t : CacheTable} {now : Nat}
    {s s' : Watched ρ} {result : StoreResult c.Answer} (h : Fate inner.watched c t now s result s')
    (d : Call) (hd : d ∈ s'.2.1) : d ∈ s.2.1 ∨ (d = c ∧ c.flaw? = none) := by
  cases h with
  | refused => exact Or.inl hd
  | served => exact Or.inl hd
  | passed hflaw _ hrun =>
    have hnoted : s'.2.1 = s.2.1 ++ [c] := by
      have hstate := congrArg Step.state hrun
      exact (congrArg (fun s => s.2.1) hstate).symm
    rw [hnoted] at hd
    rcases List.mem_append.1 hd with hd | hd
    · exact Or.inl hd
    · exact Or.inr ⟨List.mem_singleton.1 hd, hflaw⟩

/-- Others change what the base holds, but touch neither the layers nor the trail. -/
def ContentsChange : Store.Others (FullState (Watched ρ)) := fun env s later s' =>
  env.Precedes later ∧ later.trail = env.trail ∧
    ∃ contents, s' = (s.1, (), s.2.2.1, (), s.2.2.2.2.1, s.2.2.2.2.2.1, contents)

section Runs

variable {settings : Instrumentation.Settings} {audited : SortedSet Operation}
  {capacity ttl room : Nat} {inner : Store ρ} {contents : ρ} {start env : Env}
  {past : List (Visit (FullState (Watched ρ)))} {s : FullState (Watched ρ)}

/-- The stack over a base that counts and notes its calls. -/
abbrev watchedStack (settings : Instrumentation.Settings) (audited : SortedSet Operation)
    (capacity ttl : Nat) (inner : Store ρ) : Store (FullState (Watched ρ)) :=
  fullStack settings audited capacity ttl inner.watched

/-- A run of the stack from the state before its first call. -/
abbrev WatchedRun (settings : Instrumentation.Settings) (audited : SortedSet Operation)
    (capacity ttl : Nat) (inner : Store ρ) (contents : ρ) (start : Env) :
    List (Visit (FullState (Watched ρ))) → Env → FullState (Watched ρ) → Prop :=
  (watchedStack settings audited capacity ttl inner).Run ContentsChange start
    (Layers.start (.empty, [], contents) (fullLayers settings audited capacity ttl))

variable (hinner : inner.Returns) (hkeeps : inner.Keeps Env.trail)
  (hspan : start.clock.Spans ttl)
  (hrun : WatchedRun settings audited capacity ttl inner contents start past env s)

include hinner hkeeps hspan hrun

/-- Time passes and the table stays flawless, so every visit enters into the books what it should. -/
theorem entered_of_run : (start.Precedes env ∧ Caching.Flawless s.2.2.1.cache) ∧ ∀ v ∈ past,
    Entered audited inner.watched (watchedStack settings audited capacity ttl inner) v := by
  have hbase : inner.watched.Returns := hinner.noted.counted
  have hbaseKeeps : inner.watched.Keeps Env.trail := fun c env s => hkeeps c env s.2.2
  induction hrun with
  | empty => exact ⟨⟨.refl start, Caching.flawless_new capacity⟩, fun v hv => by cases hv⟩
  | @call past env s c _ ih =>
    obtain ⟨⟨hclock, hflawless⟩, hpast⟩ := ih
    have hentered : Entered audited inner.watched
        (watchedStack settings audited capacity ttl inner) ⟨c, env, s⟩ :=
      fullStack_entered hbase hbaseKeeps hflawless (hclock.spans hspan)
    refine ⟨⟨hclock.trans hentered.precedes, hentered.flawless⟩, fun v hv => ?_⟩
    rcases List.mem_append.1 hv with hv | hv
    · exact hpast v hv
    · obtain rfl := List.mem_singleton.1 hv
      exact hentered
  | between _ hothers ih =>
    obtain ⟨⟨hclock, hflawless⟩, hpast⟩ := ih
    obtain ⟨hlater, -, contents, rfl⟩ := hothers
    exact ⟨⟨hclock.trans hlater, hflawless⟩, hpast⟩

theorem entered_next (c : Call) : Entered audited inner.watched
    (watchedStack settings audited capacity ttl inner) ⟨c, env, s⟩ :=
  (entered_of_run hinner hkeeps hspan (hrun.call c)).2 _ (by simp)

/-- The statistics count the calls of each operation, and its errors. -/
theorem statsOf_run (o : Operation) :
    (Instrumentation.statsOf s.1 o).calls = Visit.count past o (fun _ => true) ∧
      (Instrumentation.statsOf s.1 o).errors =
        Visit.count past o (watchedStack settings audited capacity ttl inner).failed := by
  induction hrun with
  | empty => exact ⟨rfl, rfl⟩
  | call c h ih =>
    have hentered := entered_next hinner hkeeps hspan h c
    rw [Visit.count_snoc, Visit.count_snoc, ← ih.1, ← ih.2]
    refine ⟨(hentered.calls o).trans ?_, hentered.errors o⟩
    simp
  | between _ hothers ih =>
    obtain ⟨-, -, contents, rfl⟩ := hothers
    exact ih

/-- With room for every call, the trail holds the events of the audited operations. -/
theorem trail_run (hstart : start.trail = .new room) (hroom : past.length ≤ room) :
    (env.trail.capacity = room ∧ env.trail.events.length ≤ past.length) ∧ ∀ o,
      (env.trail.eventsFor o).length =
        (if audited.contains o then Visit.count past o (fun _ => true) else 0) ∧
      (env.trail.eventsFor o).countP (·.outcome.isFailed) = (if audited.contains o then
        Visit.count past o (watchedStack settings audited capacity ttl inner).failed else 0) := by
  induction hrun with
  | empty =>
    rw [hstart]
    refine ⟨⟨rfl, Nat.le_refl 0⟩, fun o => ?_⟩
    simp [AuditTrail.eventsFor, AuditTrail.new, Visit.count_nil]
  | @call past env s c h ih =>
    rw [List.length_append, List.length_singleton] at hroom ⊢
    obtain ⟨⟨hcapacity, hlength⟩, hevents⟩ := ih (by omega)
    have hentered := entered_next hinner hkeeps hspan h c
    have hspare : env.trail.events.length < env.trail.capacity := by omega
    refine ⟨⟨hentered.capacity_eq.trans hcapacity, ?_⟩, fun o => ?_⟩
    · exact Nat.le_trans (hentered.length_le hspare) (Nat.add_le_add_right hlength 1)
    · obtain ⟨hcalls, hfailed⟩ := hevents o
      obtain ⟨hcallsNext, hfailedNext⟩ := hentered.eventsFor hspare o
      refine ⟨hcallsNext.trans ?_, hfailedNext.trans ?_⟩
      · rw [hcalls, Visit.count_snoc]
        cases audited.contains o <;> simp
      · rw [hfailed, Visit.count_snoc]
        cases audited.contains o <;> simp
  | between _ hothers ih =>
    obtain ⟨-, htrail, contents, rfl⟩ := hothers
    rw [htrail]
    exact ih hroom

/-- The base counts the calls that were neither refused nor served from the cache, and was called
with nothing that has a flaw. -/
theorem base_run : (∀ o, s.2.2.2.2.1.of o + Visit.count past o Visit.hasFlaw +
      Visit.count past o (fun v => (servedFromCache? v).isSome) =
        Visit.count past o (fun _ => true)) ∧
    ∀ c ∈ s.2.2.2.2.2.1, c.flaw? = none := by
  induction hrun with
  | empty => exact ⟨fun o => rfl, fun c hc => by cases hc⟩
  | @call past env s c h ih =>
    obtain ⟨hcounts, hnoted⟩ := ih
    obtain ⟨result, -, hfate⟩ := (entered_next hinner hkeeps hspan h c).fate
    refine ⟨fun o => ?_, fun d hd => ?_⟩
    · have hbefore := hcounts o
      have hstep : (watchedStack settings audited capacity ttl inner c env s).state.2.2.2.2.1.of o +
          (if c.Performs o ∧ Visit.hasFlaw ⟨c, env, s⟩ = true then 1 else 0) +
          (if c.Performs o ∧ (servedFromCache? ⟨c, env, s⟩).isSome = true then 1 else 0) =
            s.2.2.2.2.1.of o + if c.Performs o then 1 else 0 := hfate.counts o
      simp only [Visit.count_snoc, and_true]
      omega
    · rcases hfate.noted_cases d hd with hd | ⟨rfl, hflaw⟩
      · exact hnoted d hd
      · exact hflaw
  | between _ hothers ih =>
    obtain ⟨-, -, contents, rfl⟩ := hothers
    exact ih

end Runs

/-! ## Configured stacks -/

/-- The operations of the job, task and lock stores, whose answers are not cached. -/
def uncachedOperations : List Operation :=
  [.fetchJobs, .fetchJob, .fetchManagerIds, .fetchTasks, .fetchLocks, .fetchLock]

theorem Call.Performs.slot?_eq_none {c : Call} {o : Operation} (h : c.Performs o)
    (ho : o ∈ uncachedOperations) : c.slot? = none := by
  cases h with
  | jobs | job | managerIds | tasks | locks | lock => rfl
  | frameworkId | quotas | quota | hosts | host | deploys | deploy =>
    simp [uncachedOperations] at ho

/-- What the books of a stack say of one operation agrees with the calls that were made. -/
structure Reconciled (audited : SortedSet Operation) (stack : Store (FullState (Watched ρ)))
    (past : List (Visit (FullState (Watched ρ)))) (env : Env) (s : FullState (Watched ρ))
    (o : Operation) : Prop where
  calls : (Instrumentation.statsOf s.1 o).calls = Visit.count past o fun _ => true
  errors : (Instrumentation.statsOf s.1 o).errors = Visit.count past o stack.failed
  events : (env.trail.eventsFor o).length =
    if audited.contains o then (Instrumentation.statsOf s.1 o).calls else 0
  failures : (env.trail.eventsFor o).countP (·.outcome.isFailed) =
    if audited.contains o then (Instrumentation.statsOf s.1 o).errors else 0
  uncached : o ∈ uncachedOperations →
    s.2.2.2.2.1.of o + Visit.count past o Visit.hasFlaw = (Instrumentation.statsOf s.1 o).calls
  cached : o ∉ uncachedOperations →
    s.2.2.2.2.1.of o + Visit.count past o Visit.hasFlaw +
      Visit.count past o (fun v => (servedFromCache? v).isSome) =
        (Instrumentation.statsOf s.1 o).calls

theorem reconciled_of_run {settings : Instrumentation.Settings} {audited : SortedSet Operation}
    {capacity ttl room : Nat} {inner : Store ρ} {contents : ρ} {start env : Env}
    {past : List (Visit (FullState (Watched ρ)))} {s : FullState (Watched ρ)}
    (hinner : inner.Returns) (hkeeps : inner.Keeps Env.trail) (hspan : start.clock.Spans ttl)
    (hstart : start.trail = .new room) (hroom : past.length ≤ room)
    (hrun : WatchedRun settings audited capacity ttl inner contents start past env s)
    (o : Operation) :
    Reconciled audited (watchedStack settings audited capacity ttl inner) past env s o := by
  obtain ⟨hcalls, herrors⟩ := statsOf_run hinner hkeeps hspan hrun o
  obtain ⟨hevents, hfailures⟩ := (trail_run hinner hkeeps hspan hrun hstart hroom).2 o
  have hbase := (base_run hinner hkeeps hspan hrun).1 o
  constructor
  case calls => exact hcalls
  case errors => exact herrors
  case events => rw [hevents, hcalls]
  case failures => rw [hfailures, herrors]
  case uncached =>
    intro ho
    have hnone : Visit.count past o (fun v => (servedFromCache? v).isSome) = 0 := by
      refine List.countP_eq_zero.2 fun v _ => ?_
      by_cases hv : v.call.Performs o
      · simp [servedFromCache?, Caching.served?_eq_none (hv.slot?_eq_none ho)]
      · simp [hv]
    omega
  case cached =>
    intro _
    rw [hbase, hcalls]

namespace StorageConfig

variable {c : StorageConfig} {options : LayerOptions} {layers : List Layer}

/-- With all four layers switched on and a trail and a cache of its own, a stack keeps books that
agree after every run: by operation, what was called, what failed, what was recorded, and what
reached the base, which was never called with an argument that has a flaw. -/
theorem books_reconcile (hlayers : c.layers options = .ok layers)
    (hinstrumentation : c.instrumentation.enabled = true) (haudit : c.audit.enabled = true)
    (hcache : c.cache.enabled = true) (hvalidation : c.validation.enabled = true)
    (hsink : options.sink = .trail) (hprivate : ∀ broken, options.cache ≠ some (.shared broken)) :
    let settings : Instrumentation.Settings :=
      ⟨c.instrumentation.slowThreshold, options.reportsMetrics⟩
    ∃ audited capacity, c.audit.audited = .ok audited ∧
      layers = fullLayers settings audited capacity c.cache.ttl ∧
      ∀ {ρ : Type} {inner : Store ρ} {contents : ρ} {room : Nat} {start env : Env}
        {past : List (Visit (FullState (Watched ρ)))} {s : FullState (Watched ρ)},
        inner.Returns → inner.Keeps Env.trail → start.clock.Spans c.cache.ttl →
        start.trail = .new room → past.length ≤ room →
        WatchedRun settings audited capacity c.cache.ttl inner contents start past env s →
        let stack := watchedStack settings audited capacity c.cache.ttl inner
        (∀ v ∈ past, ∃ result, (stack.serve v).outcome = .ok result ∧
          (∀ flaw, v.call.flaw? = some flaw → result = .error flaw.error) ∧
          ∀ a, servedFromCache? v = some a → result = .ok a) ∧
        (∀ o, Reconciled audited stack past env s o) ∧
        ∀ call ∈ s.2.2.2.2.2.1, call.flaw? = none := by
  intro settings
  obtain ⟨-, audited, haudited, rfl⟩ := layers_eq_ok_iff.1 hlayers
  have hmem : .caching (options.cache.getD (.own c.cache.maxEntries.toNat)) c.cache.ttl ∈
      c.layersAuditing options audited := by
    simp [layersAuditing, Layer.when, hcache]
  obtain ⟨capacity, hhome⟩ := exists_own hprivate hmem
  have hfull : c.layersAuditing options audited =
      fullLayers settings audited capacity c.cache.ttl := by
    simp [layersAuditing, Layer.when, fullLayers, hinstrumentation, haudit, hcache, hvalidation,
      hsink, hhome, settings]
  refine ⟨audited, capacity, haudited, hfull, ?_⟩
  intro ρ inner contents room start env past s hinner hkeeps hspan hstart hroom hrun stack
  refine ⟨fun v hv => ?_, reconciled_of_run hinner hkeeps hspan hstart hroom hrun,
    (base_run hinner hkeeps hspan hrun).2⟩
  obtain ⟨result, houtcome, hfate⟩ := ((entered_of_run hinner hkeeps hspan hrun).2 v hv).fate
  exact ⟨result, houtcome, fun _ => hfate.eq_error, fun _ => hfate.eq_ok⟩

/-- Two lookups without a role are in all the books under their operation, and do not reach the base; a
lookup of locks between them is in all the books under its own. -/
theorem books_reconcile_of_two_operations :
    let c : StorageConfig := ⟨⟨true, 30, 10000⟩, ⟨true, 250⟩, ⟨true, []⟩, ⟨true⟩⟩
    let options : LayerOptions := ⟨true, none, .trail⟩
    let settings : Instrumentation.Settings := ⟨c.instrumentation.slowThreshold, true⟩
    let audited : SortedSet Operation := .ofList Operation.all
    let capacity := c.cache.maxEntries.toNat
    let inner : Store Unit := .fixed Ledger.empty.answers
    let stack := watchedStack settings audited capacity c.cache.ttl inner
    let start : Env := { Env.still with trail := .new 3 }
    let initial : FullState (Watched Unit) :=
      Layers.start (.empty, [], ()) (fullLayers settings audited capacity c.cache.ttl)
    let first := stack (.quota "") start initial
    let second := stack .locks first.env first.state
    let third := stack (.quota "") second.env second.state
    c.layers options = .ok (fullLayers settings audited capacity c.cache.ttl) ∧
      (Instrumentation.statsOf third.state.1 .fetchQuota).calls = 2 ∧
      (Instrumentation.statsOf third.state.1 .fetchQuota).errors = 2 ∧
      (third.env.trail.eventsFor .fetchQuota).length = 2 ∧
      third.state.2.2.2.2.1.of .fetchQuota = 0 ∧
      (Instrumentation.statsOf third.state.1 .fetchLocks).calls = 1 ∧
      (third.env.trail.eventsFor .fetchLocks).length = 1 ∧
      third.state.2.2.2.2.1.of .fetchLocks = 1 := by
  intro c options settings audited capacity inner stack start initial first second third
  have hlayers : c.layers options = .ok (fullLayers settings audited capacity c.cache.ttl) := rfl
  obtain ⟨audited', capacity', -, hfull, hbooks⟩ :=
    books_reconcile hlayers rfl rfl rfl rfl rfl (fun _ h => by cases h)
  obtain ⟨rfl, rfl⟩ : audited = audited' ∧ capacity = capacity' := by
    injection hfull with _ hrest
    injection hrest with haudit hrest
    injection haudit with _ haudited
    injection hrest with hcaching _
    injection hcaching with hhome _
    injection hhome with hcapacity
    exact ⟨haudited, hcapacity⟩
  have hinner : inner.Returns := fun c env _ => ⟨_, env, (), rfl, .refl env⟩
  have hspan : start.clock.Spans c.cache.ttl :=
    Env.still_spans (by decide : 30 * 1000000000 < Clock.limit)
  let past : List (Visit (FullState (Watched Unit))) :=
    [⟨.quota "", start, initial⟩, ⟨.locks, first.env, first.state⟩, ⟨.quota "", second.env, second.state⟩]
  have hrun : WatchedRun settings audited capacity c.cache.ttl inner () start past third.env
      third.state := ((Store.Run.empty.call (.quota "")).call .locks).call (.quota "")
  obtain ⟨hends, hreconciled, -⟩ :=
    hbooks hinner (fun _ _ _ => rfl) hspan rfl (Nat.le_refl past.length) hrun
  have hfailed : ∀ v ∈ past, v.call = .quota "" → stack.failed v = true := by
    intro v hv hquota
    obtain ⟨result, houtcome, herror, -⟩ := hends v hv
    have hflaw : v.call.flaw? = some (.blank "role") := by
      rw [hquota]
      decide
    rw [Store.failed, houtcome, herror _ hflaw]
  have hcount : Visit.count past .fetchQuota stack.failed = 2 := by
    have hfirst := hfailed _ (List.mem_cons_self) rfl
    have hthird := hfailed _ (List.mem_cons_of_mem _ (List.mem_cons_of_mem _ List.mem_cons_self)) rfl
    simp [Visit.count, past, hfirst, hthird, Call.performs_iff_operation, Call.operation]
  obtain ⟨hcalls, herrors, hevents, -, -, hcached⟩ := hreconciled .fetchQuota
  obtain ⟨hlocks, -, hlockEvents, -, huncached, -⟩ := hreconciled .fetchLocks
  have htwo : (Instrumentation.statsOf third.state.1 .fetchQuota).calls = 2 := hcalls
  have hone : (Instrumentation.statsOf third.state.1 .fetchLocks).calls = 1 := hlocks
  have hflawed : Visit.count past .fetchQuota Visit.hasFlaw = 2 := rfl
  have hflawless : Visit.count past .fetchLocks Visit.hasFlaw = 0 := rfl
  have hbase := hcached (by decide)
  have hbaseLocks := huncached (by decide)
  refine ⟨hlayers, htwo, herrors.trans hcount, hevents.trans htwo, ?_, hone, hlockEvents.trans hone, ?_⟩
  · omega
  · omega

end StorageConfig

end ClusterReads
