import Mathlib.Algebra.GroupWithZero.Nat
import Mathlib.Algebra.GroupWithZero.Action.Defs
import Mathlib.Algebra.Order.BigOperators.Group.List
import Mathlib.Algebra.Order.Ring.Nat
import ClusterReads.Proofs.Act
import ClusterReads.Proofs.Call
import ClusterReads.Proofs.Keyed
import ClusterReads.Proofs.Run

/-!
# The statistics are exact

What a caller can see of a call is its operation, whether it failed, and the time from the reading with
which it began to the last one that was taken. Main statement: after every run, the statistics of each
operation are the numbers, the sum and the maximum of what was seen of its calls, and the mean duration
is the exact quotient, rounded down, unless that leaves the words of 64 bits.
-/
namespace ClusterReads

variable {σ ρ : Type}

/-- The reading that was taken last. -/
def Clock.last (c : Clock) : Nat :=
  c.readingAt (c.taken - 1)

/-- What is seen of a call that came to a result; the duration is in nanoseconds. -/
structure Observation where
  operation : Operation
  elapsed : Nat
  failed : Bool
  deriving DecidableEq

namespace Instrumentation

/-! ## One call -/

/-- The surroundings in which the timed call itself begins. -/
def begun (c : Call) (env : Env) : Env :=
  { env with clock := env.clock.tick, journal := env.journal.enter c.operation.name }

/-- The statistics with one more call entered. -/
def entered (settings : Settings) (s : InstrumentationState) (x : Observation) : InstrumentationState :=
  s.put x.operation
    ((statsOf s x.operation).add x.elapsed x.failed (decide (settings.slowFrom ≤ x.elapsed)))

theorem statsOf_put (s : InstrumentationState) (o o' : Operation) (stats : OperationStats) :
    statsOf (s.put o stats) o' = if o = o' then stats else statsOf s o' := by
  unfold statsOf
  rw [SortedMap.lookup?_put]
  by_cases h : o = o' <;> simp [h]

/-- Entering a call changes the statistics, and of the surroundings the metrics and the journal only. -/
theorem record_run (settings : Settings) (o : Operation) (elapsed : Nat) (failed : Bool) (env : Env)
    (s : InstrumentationState) : ∃ after, record settings o elapsed failed env s =
      ⟨.ok (), after, entered settings s ⟨o, elapsed, failed⟩⟩ ∧ after.clock = env.clock ∧
        after.cache = env.cache ∧ after.trail = env.trail := by
  unfold record entered
  cases settings.reportsMetrics <;> cases decide (settings.slowFrom ≤ elapsed) <;>
    exact ⟨_, rfl, rfl, rfl, rfl⟩

section Call

variable {inner : Store ρ} {c : Call} {env later : Env} {s : InstrumentationState × ρ} {s' : ρ}

/-- A call that comes to a result passes it on, and is entered with the time between two readings. -/
theorem layer_run_ok (settings : Settings) {result : StoreResult c.Answer}
    (hinner : inner c (begun c env) s.2 = ⟨.ok result, later, s'⟩) :
    ∃ after, layer settings inner c env s = ⟨.ok result, after, (entered settings s.1
        ⟨label c, later.clock.reading - env.clock.reading, isError result⟩, s')⟩ ∧
      after.clock = later.clock.tick ∧ after.cache = later.cache ∧ after.trail = later.trail := by
  obtain ⟨after, hrecord, hclock, hcache, htrail⟩ := record_run settings (label c)
    (later.clock.reading - env.clock.reading) (isError result) { later with clock := later.clock.tick } s.1
  refine ⟨{ after with journal := after.journal.leave }, ?_, hclock, hcache, htrail⟩
  refine Act.within_run ?_
  unfold begun at hinner
  simp only [Act.bind_run, Act.now, Act.onSnd, Act.onFst, hinner, hrecord]
  rfl

/-- A call that ends with a fault leaves the statistics alone. -/
theorem layer_run_fault (settings : Settings) {fault : Fault}
    (hinner : inner c (begun c env) s.2 = ⟨.error fault, later, s'⟩) :
    layer settings inner c env s =
      ⟨.error fault, { later with journal := later.journal.leave }, (s.1, s')⟩ := by
  refine Act.within_run ?_
  unfold begun at hinner
  simp only [Act.bind_run, Act.now, Act.onSnd, hinner]

end Call

end Instrumentation

/-- What is seen of a visit, if it comes to a result. -/
def Store.observed? (store : Store σ) (v : Visit σ) : Option Observation :=
  match (store.serve v).outcome with
  | .ok result => some ⟨v.call.operation,
      (store.serve v).env.clock.last - v.env.clock.reading, Instrumentation.isError result⟩
  | .error _ => none

namespace Instrumentation

variable {settings : Settings} {inner : Store ρ}

/-- A visit enters exactly what is seen of it. -/
theorem state_serve (v : Visit (InstrumentationState × ρ)) :
    ((layer settings inner).serve v).state.1 =
      (((layer settings inner).observed? v).elim v.state.1 (entered settings v.state.1)) := by
  obtain ⟨c, env, s⟩ := v
  unfold Store.observed? Store.serve
  rcases hinner : inner c (begun c env) s.2 with ⟨fault | result, later, s'⟩
  · rw [layer_run_fault settings hinner]
    rfl
  · obtain ⟨after, hrun, hclock, -⟩ := layer_run_ok settings hinner
    have hlast : after.clock.last = later.clock.reading := by
      rw [hclock]
      rfl
    rw [hrun]
    simp only [hlast, ← (performs_label c).eq_operation]
    rfl

/-! ## Aggregates -/

/-- The statistics are the numbers, the sum and the maximum of what was seen. -/
structure Tallies (slowFrom : Nat) (seen : List Observation) (stats : OperationStats) : Prop where
  calls : stats.calls = seen.length
  errors : stats.errors = seen.countP (·.failed)
  slowCalls : stats.slowCalls = seen.countP (slowFrom ≤ ·.elapsed)
  total : stats.total = (seen.map Observation.elapsed).sum
  le_longest : ∀ x ∈ seen, x.elapsed ≤ stats.longest
  longest_cases : (seen = [] ∧ stats.longest = 0) ∨ ∃ x ∈ seen, x.elapsed = stats.longest

theorem tallies_zero (slowFrom : Nat) : Tallies slowFrom [] .zero :=
  ⟨rfl, rfl, rfl, rfl, by simp, Or.inl ⟨rfl, rfl⟩⟩

namespace Tallies

variable {slowFrom : Nat} {seen : List Observation} {stats : OperationStats}

/-- One more call is one more observation. -/
theorem snoc (h : Tallies slowFrom seen stats) (x : Observation) : Tallies slowFrom (seen ++ [x])
    (stats.add x.elapsed x.failed (decide (slowFrom ≤ x.elapsed))) where
  calls := by simp [OperationStats.add, h.calls]
  errors := by
    rw [List.countP_append, List.countP_singleton, ← h.errors, OperationStats.add]
    cases x.failed <;> rfl
  slowCalls := by
    rw [List.countP_append, List.countP_singleton, ← h.slowCalls, OperationStats.add]
    cases decide (slowFrom ≤ x.elapsed) <;> rfl
  total := by simp [OperationStats.add, h.total]
  le_longest := by
    rw [List.forall_mem_append, List.forall_mem_singleton]
    exact ⟨fun y hy => Nat.le_trans (h.le_longest y hy) (Nat.le_max_left _ _), Nat.le_max_right _ _⟩
  longest_cases := by
    refine Or.inr ?_
    change ∃ y ∈ seen ++ [x], y.elapsed = max stats.longest x.elapsed
    obtain hlt | hle := Nat.lt_or_ge x.elapsed stats.longest
    · -- no call lasts less than nothing, so the maximum is that of an earlier call
      obtain ⟨-, hzero⟩ | ⟨y, hy, hlongest⟩ := h.longest_cases
      · omega
      · exact ⟨y, by simp [hy], hlongest.trans (Nat.max_eq_left (Nat.le_of_lt hlt)).symm⟩
    · exact ⟨x, by simp, (Nat.max_eq_right hle).symm⟩

variable (h : Tallies slowFrom seen stats)
include h

theorem errors_le_calls : stats.errors ≤ stats.calls := by
  rw [h.errors, h.calls]
  exact List.countP_le_length

theorem slowCalls_le_calls : stats.slowCalls ≤ stats.calls := by
  rw [h.slowCalls, h.calls]
  exact List.countP_le_length

theorem longest_le_total : stats.longest ≤ stats.total := by
  obtain ⟨-, hzero⟩ | ⟨x, hx, hlongest⟩ := h.longest_cases
  · rw [hzero]
    exact Nat.zero_le _
  · rw [← hlongest, h.total]
    exact List.le_sum_of_mem (List.mem_map_of_mem hx)

theorem total_le : stats.total ≤ stats.calls * stats.longest := by
  have hsum := List.sum_le_card_nsmul (seen.map Observation.elapsed) stats.longest
    (List.forall_mem_map.2 h.le_longest)
  rwa [List.length_map, smul_eq_mul, ← h.total, ← h.calls] at hsum

theorem quotient_le : stats.total / stats.calls ≤ stats.longest :=
  Nat.div_le_of_le_mul h.total_le

theorem quotient_lt_size (hshort : ∀ x ∈ seen, x.elapsed < UInt64.size) :
    stats.total / stats.calls < UInt64.size := by
  refine Nat.lt_of_le_of_lt h.quotient_le ?_
  obtain ⟨-, hzero⟩ | ⟨x, hx, hlongest⟩ := h.longest_cases
  · rw [hzero]
    decide
  · rw [← hlongest]
    exact hshort x hx

end Tallies

/-- Exact statistics, with what follows for them. -/
structure Exact (slowFrom : Nat) (seen : List Observation) (stats : OperationStats) : Prop
    extends Tallies slowFrom seen stats where
  errors_le : stats.errors ≤ stats.calls
  slowCalls_le : stats.slowCalls ≤ stats.calls
  longest_le : stats.longest ≤ stats.total
  total_le : stats.total ≤ stats.calls * stats.longest
  average_le : stats.average ≤ stats.longest
  /-- The mean is rounded down. -/
  average_eq : stats.total / stats.calls < UInt64.size → stats.average = stats.total / stats.calls
  /-- A mean that is no word is replaced by the greatest word. -/
  average_of_size_le : UInt64.size ≤ stats.total / stats.calls → stats.average = UInt64.size - 1
  /-- Durations that are words have a mean that is one. -/
  average_of_lt_size : (∀ x ∈ seen, x.elapsed < UInt64.size) →
    stats.average = stats.total / stats.calls

/-- The mean is the quotient rounded down, as long as that is a word. -/
theorem average_eq_of_lt {stats : OperationStats} (h : stats.total / stats.calls < UInt64.size) :
    stats.average = stats.total / stats.calls :=
  Nat.min_eq_left (Nat.le_sub_one_of_lt h)

example : OperationStats.average ⟨4294967298, 0, 0, 4294967298000000001, 1000000001⟩ = 1000000000 := by
  decide

theorem Tallies.exact {slowFrom : Nat} {seen : List Observation} {stats : OperationStats}
    (h : Tallies slowFrom seen stats) : Exact slowFrom seen stats where
  toTallies := h
  errors_le := h.errors_le_calls
  slowCalls_le := h.slowCalls_le_calls
  longest_le := h.longest_le_total
  total_le := h.total_le
  average_le := Nat.le_trans (Nat.min_le_left _ _) h.quotient_le
  average_eq := average_eq_of_lt
  average_of_size_le hle := Nat.min_eq_right (Nat.le_trans (Nat.sub_le _ _) hle)
  average_of_lt_size hshort := average_eq_of_lt (h.quotient_lt_size hshort)

/-! ## Runs -/

/-- The statistics after calls that were seen, in the order in which they ended. While a call goes on,
others may, and the surroundings may change as they like. -/
inductive Kept (settings : Settings) : List Observation → InstrumentationState → Prop
  | empty : Kept settings [] .empty
  | record {seen : List Observation} {s : InstrumentationState} (x : Observation) (env : Env)
      (h : Kept settings seen s) :
      Kept settings (seen ++ [x]) (record settings x.operation x.elapsed x.failed env s).state

theorem record_state (settings : Settings) (x : Observation) (env : Env) (s : InstrumentationState) :
    (record settings x.operation x.elapsed x.failed env s).state = entered settings s x := by
  obtain ⟨after, hrun, -⟩ := record_run settings x.operation x.elapsed x.failed env s
  rw [hrun]

theorem Kept.tallies {seen : List Observation} {s : InstrumentationState} (h : Kept settings seen s)
    (o : Operation) :
    Tallies settings.slowFrom (seen.filter (·.operation = o)) (statsOf s o) := by
  induction h with
  | empty => exact tallies_zero _
  | @record seen s x env _ ih =>
    rw [record_state, entered, statsOf_put, List.filter_append, List.filter_singleton]
    by_cases ho : x.operation = o
    · subst ho
      simpa using ih.snoc x
    · simpa [ho] using ih

/-- There are statistics of the operations that were called. -/
theorem Kept.lookup?_isSome_iff {seen : List Observation} {s : InstrumentationState}
    (h : Kept settings seen s) (o : Operation) :
    (s.lookup? o).isSome = true ↔ ∃ x ∈ seen, x.operation = o := by
  induction h with
  | empty => simp [SortedMap.lookup?, Keyed.get?_empty]
  | @record seen s x env _ ih =>
    rw [record_state, entered, SortedMap.lookup?_put]
    by_cases ho : x.operation = o
    · simp only [if_pos ho, Option.isSome_some, true_iff]
      exact ⟨x, by simp, ho⟩
    · simp [ho, ih]

/-- Others do as they like, but leave the statistics alone. -/
def SpareStatistics : Store.Others (InstrumentationState × ρ) :=
  fun _ s _ s' => s'.1 = s.1

/-- The calls of a run are entered as they are seen. -/
theorem kept_of_run {start env : Env} {first s : InstrumentationState × ρ}
    {past : List (Visit (InstrumentationState × ρ))} (hfirst : first.1 = .empty)
    (hrun : (layer settings inner).Run SpareStatistics start first past env s) :
    Kept settings (past.filterMap (layer settings inner).observed?) s.1 := by
  induction hrun with
  | empty =>
    rw [hfirst]
    exact .empty
  | between _ hothers ih =>
    have hkept : _ = _ := hothers
    rwa [hkept]
  | @call past env s c _ ih =>
    have hstate : (layer settings inner c env s).state.1 =
        ((layer settings inner).observed? ⟨c, env, s⟩).elim s.1 (entered settings s.1) :=
      state_serve ⟨c, env, s⟩
    rw [hstate, List.filterMap_append]
    cases hseen : (layer settings inner).observed? ⟨c, env, s⟩ with
    | none => simpa [hseen] using ih
    | some x => simpa [hseen, record_state] using ih.record x env

/-- Whatever calls are made of a timed store, they are entered as they are seen; and whichever calls were
entered, in whatever order they ended, the statistics of each operation are exact. Those of the operations
that were called are all there is. -/
theorem statistics_exact (ρ : Type) (settings : Settings) :
    (∀ (inner : Store ρ) (start env : Env) (first s : InstrumentationState × ρ)
      (past : List (Visit (InstrumentationState × ρ))), first.1 = .empty →
      (layer settings inner).Run SpareStatistics start first past env s →
      Kept settings (past.filterMap (layer settings inner).observed?) s.1) ∧
    ∀ (seen : List Observation) (s : InstrumentationState), Kept settings seen s →
      (∀ o, Exact settings.slowFrom (seen.filter (·.operation = o)) (statsOf s o)) ∧
      ∀ o stats, (o, stats) ∈ s.toList ↔ (∃ x ∈ seen, x.operation = o) ∧ stats = statsOf s o := by
  refine ⟨fun inner start env first s past => kept_of_run, fun seen s h => ⟨fun o => (h.tallies o).exact, ?_⟩⟩
  intro o stats
  rw [SortedMap.mem_toList_iff, ← h.lookup?_isSome_iff o, statsOf]
  cases s.lookup? o with
  | none => simp
  | some kept => simp [eq_comm]

/-- Two lookups of quotas and one of a host fail, each after one nanosecond. -/
theorem statistics_exact_of_failing_lookups :
    let timed : Store (InstrumentationState × Unit) :=
      layer ⟨1, true⟩ (.failing (.unavailable "backend offline"))
    let start : Env := { Env.still with clock := .steady }
    let first := timed (.quota "r") start (.empty, ())
    let second := timed (.host "h") first.env first.state
    let third := timed (.quota "t") second.env second.state
    let stats := statsOf third.state.1 .fetchQuota
    stats.calls = 2 ∧ stats.errors = 2 ∧ stats.slowCalls = 2 ∧ stats.total = 2 ∧ stats.longest = 1 ∧
      stats.average = 1 ∧ ∀ stats, (Operation.fetchJobs, stats) ∉ third.state.1.toList := by
  intro timed start first second third stats
  have hrun : timed.Run SpareStatistics start (.empty, ()) [⟨.quota "r", start, (.empty, ())⟩,
      ⟨.host "h", first.env, first.state⟩, ⟨.quota "t", second.env, second.state⟩] third.env third.state :=
    ((Store.Run.empty.call (.quota "r")).call (.host "h")).call (.quota "t")
  obtain ⟨hentered, hexact⟩ := statistics_exact Unit ⟨1, true⟩
  have hkept : Kept ⟨1, true⟩
      [⟨.fetchQuota, 1, true⟩, ⟨.getHostAttributes, 1, true⟩, ⟨.fetchQuota, 1, true⟩] third.state.1 :=
    hentered _ _ _ _ _ _ rfl hrun
  obtain ⟨hquota, hall⟩ := hexact _ _ hkept
  have hstats : Exact 1 [⟨.fetchQuota, 1, true⟩, ⟨.fetchQuota, 1, true⟩] stats := hquota .fetchQuota
  have hcalls : stats.calls = 2 := hstats.calls
  have htotal : stats.total = 2 := hstats.total
  have hlongest : stats.longest = 1 := by
    have hle := hstats.le_longest ⟨.fetchQuota, 1, true⟩ (by simp)
    obtain ⟨hnil, -⟩ | ⟨x, hx, hlongest⟩ := hstats.longest_cases
    · cases hnil
    · obtain rfl : x = ⟨.fetchQuota, 1, true⟩ := by simpa using hx
      exact hlongest.symm
  refine ⟨hcalls, hstats.errors, hstats.slowCalls, htotal, hlongest, ?_, fun stats hmem => ?_⟩
  · rw [hstats.average_of_lt_size (by decide), hcalls, htotal]
  · obtain ⟨⟨x, hx, hjobs⟩, -⟩ := (hall .fetchJobs stats).1 hmem
    revert x
    decide

end Instrumentation
end ClusterReads
