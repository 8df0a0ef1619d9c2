import ClusterReads.Composition
import ClusterReads.Proofs.Call
import ClusterReads.Proofs.Latest

/-!
# Where the calls of a composed store go

Delegates are given in any order and any number of times. Which delegate a call is for is said by the
capability that owns its operation; the setters, the order of building and the forwards are shown to agree
with that. Main statement: composing fails with the first capability that was never given a delegate, and in a
composed store each call reaches the delegate that was given last for its capability, that one only and once.
-/
namespace ClusterReads

variable {δ ε σ : Type}

/-- The delegate of a capability. -/
def Delegates.of (d : Delegates δ) : Capability → δ
  | .scheduler => d.scheduler
  | .job => d.job
  | .task => d.task
  | .lock => d.lock
  | .quota => d.quota
  | .attribute => d.attributes
  | .deploy => d.deploy

theorem Delegates.of_map (f : δ → ε) (d : Delegates δ) (c : Capability) :
    (d.map f).of c = f (d.of c) := by
  cases c <;> rfl

theorem Delegates.of_each (d : Capability → δ) (c : Capability) : (each d).of c = d c := by
  cases c <;> rfl

/-- A step of giving delegates. -/
inductive Provision (δ : Type) where
  | one (c : Capability) (d : δ)
  | all (d : δ)

/-- The delegate that a step gives for a capability, if it gives one. -/
def Provision.for? (c : Capability) : Provision δ → Option δ
  | .one c' d => if c = c' then some d else none
  | .all d => some d

/-- What has been given after some steps. -/
def Composer.given (steps : List (Provision δ)) : Composer δ :=
  steps.foldl (fun b step =>
    match step with
    | .one c d => b.provide c d
    | .all d => b.provideAll d) .empty

/-- The delegate was given for the capability, and no other one after it. -/
def GivenLast (steps : List (Provision δ)) (c : Capability) (d : δ) : Prop :=
  ∃ before step since, steps = before ++ step :: since ∧ step.for? c = some d ∧
    ∀ later ∈ since, later.for? c = none

def NeverGiven (steps : List (Provision δ)) (c : Capability) : Prop :=
  ∀ step ∈ steps, step.for? c = none

/-- The first capability in their order that was never given a delegate. -/
def FirstNeverGiven (steps : List (Provision δ)) (c : Capability) : Prop :=
  NeverGiven steps c ∧ ∃ before after, (Spelled.all : List Capability) = before ++ c :: after ∧
    ∀ earlier ∈ before, ¬ NeverGiven steps earlier

/-! ## What has been given -/

namespace Composer

/-- The delegate given for a capability so far. -/
def delegate? (b : Composer δ) : Capability → Option δ
  | .scheduler => b.scheduler
  | .job => b.job
  | .task => b.task
  | .lock => b.lock
  | .quota => b.quota
  | .attribute => b.attributes
  | .deploy => b.deploy

/-- The setter of a capability sets the delegate of this one and of no other. -/
theorem delegate?_provide (b : Composer δ) (c c' : Capability) (d : δ) :
    (b.provide c d).delegate? c' = if c' = c then some d else b.delegate? c' := by
  cases c <;> cases c' <;> rfl

theorem delegate?_provideAll (b : Composer δ) (c : Capability) (d : δ) :
    (b.provideAll d).delegate? c = some d := by
  cases c <;> rfl

theorem delegate?_empty (c : Capability) : (empty : Composer δ).delegate? c = none := by
  cases c <;> rfl

theorem delegate?_given_snoc (steps : List (Provision δ)) (step : Provision δ) (c : Capability) :
    (given (steps ++ [step])).delegate? c = (step.for? c).or ((given steps).delegate? c) := by
  rw [given, List.foldl_append, ← given]
  cases step with
  | one c' d =>
    change ((given steps).provide c' d).delegate? c = _
    rw [delegate?_provide]
    by_cases hc : c = c' <;> simp [Provision.for?, hc]
  | all d => exact delegate?_provideAll _ c d

theorem delegate?_given_eq_none_iff {steps : List (Provision δ)} {c : Capability} :
    (given steps).delegate? c = none ↔ NeverGiven steps c := by
  unfold NeverGiven
  induction steps using List.reverseRecOn with
  | nil => simp [given, delegate?_empty]
  | append_singleton steps step ih =>
    rw [delegate?_given_snoc, Option.or_eq_none_iff, ih, List.forall_mem_append,
      List.forall_mem_singleton, and_comm]

theorem givenLast_iff_latest (steps : List (Provision δ)) (c : Capability) (d : δ) :
    GivenLast steps c d ↔
      Latest (fun step => step.for? c = some d) (fun step => step.for? c = none) steps := Iff.rfl

/-- The delegate that is held is the one that was given last. -/
theorem delegate?_given_eq_some_iff {steps : List (Provision δ)} {c : Capability} {d : δ} :
    (given steps).delegate? c = some d ↔ GivenLast steps c d := by
  induction steps using List.reverseRecOn with
  | nil => simp [given, delegate?_empty, givenLast_iff_latest, not_latest_nil]
  | append_singleton steps step ih =>
    rw [delegate?_given_snoc, Option.or_eq_some_iff, ih]
    simp only [givenLast_iff_latest, latest_snoc_iff]

/-! ## Building -/

/-- The first capability in their order without a delegate. -/
def missing? (b : Composer δ) : Option Capability :=
  (Spelled.all : List Capability).find? fun c => (b.delegate? c).isNone

/-- Building fails with the first field that is empty, or takes each field for its capability. -/
theorem build_cases (b : Composer δ) :
    (∃ c, b.missing? = some c ∧ b.build = .error ⟨c⟩) ∨
    (∃ delegates, b.missing? = none ∧ b.build = .ok delegates ∧
      ∀ c, b.delegate? c = some (delegates.of c)) := by
  obtain ⟨scheduler, job, task, lock, quota, attributes, deploy⟩ := b
  rcases scheduler with _ | scheduler
  · exact Or.inl ⟨.scheduler, rfl, rfl⟩
  rcases job with _ | job
  · exact Or.inl ⟨.job, rfl, rfl⟩
  rcases task with _ | task
  · exact Or.inl ⟨.task, rfl, rfl⟩
  rcases lock with _ | lock
  · exact Or.inl ⟨.lock, rfl, rfl⟩
  rcases quota with _ | quota
  · exact Or.inl ⟨.quota, rfl, rfl⟩
  rcases attributes with _ | attributes
  · exact Or.inl ⟨.attribute, rfl, rfl⟩
  rcases deploy with _ | deploy
  · exact Or.inl ⟨.deploy, rfl, rfl⟩
  exact Or.inr ⟨⟨scheduler, job, task, lock, quota, attributes, deploy⟩, rfl, rfl,
    fun c => by cases c <;> rfl⟩

theorem build_eq_error_iff {b : Composer δ} {e : CompositionError} :
    b.build = .error e ↔ b.missing? = some e.missing := by
  obtain ⟨missing⟩ := e
  obtain ⟨c, hmissing, hbuild⟩ | ⟨delegates, hmissing, hbuild, -⟩ := b.build_cases <;>
    simp [hmissing, hbuild]

theorem delegate?_of_build {b : Composer δ} {delegates : Delegates δ}
    (h : b.build = .ok delegates) (c : Capability) : b.delegate? c = some (delegates.of c) := by
  obtain ⟨c, -, hbuild⟩ | ⟨delegates', -, hbuild, hheld⟩ := b.build_cases <;>
    rw [hbuild] at h <;> cases h
  exact hheld c

theorem exists_build_iff {b : Composer δ} :
    (∃ delegates, b.build = .ok delegates) ↔ ∀ c, b.delegate? c ≠ none := by
  constructor
  · rintro ⟨delegates, h⟩ c
    simp [delegate?_of_build h c]
  · intro h
    cases hbuild : b.build with
    | ok delegates => exact ⟨delegates, rfl⟩
    | error e =>
      have hmissing := List.find?_some (build_eq_error_iff.1 hbuild)
      exact absurd (by simpa using hmissing) (h e.missing)

/-- Building says which capability is the first without a delegate. -/
theorem build_given_eq_error_iff {steps : List (Provision δ)} {e : CompositionError} :
    (given steps).build = .error e ↔ FirstNeverGiven steps e.missing := by
  rw [build_eq_error_iff, missing?, List.find?_eq_some_iff_append]
  simp only [Option.isNone_iff_eq_none, Bool.not_eq_true', Option.isNone_eq_false_iff,
    Option.isSome_iff_ne_none, ne_eq, delegate?_given_eq_none_iff]
  rfl

/-- Composing is a matter of the journal only. -/
theorem compose_run (b : Composer δ) (env : Env) (s : σ) :
    ∃ journal, b.compose env s = ⟨.ok b.build, { env with journal := journal }, s⟩ := by
  unfold compose
  cases b.build with
  | error e => exact ⟨env.journal, rfl⟩
  | ok delegates => exact ⟨_, rfl⟩

end Composer

/-! ## Calls -/

/-- A call is forwarded as it is, to the delegate of the capability that owns its operation. -/
theorem Store.forwarding_of_performs (d : Delegates (Store σ)) {c : Call} {o : Operation}
    (h : c.Performs o) : Store.forwarding d c = d.of o.capability c := by
  cases h <;> rfl

/-- What a delegate serves, with each call noted under the delegate before it is served. -/
def Store.notedUnder (serve : δ → Store σ) (d : δ) : Store (List (δ × Call) × σ) := fun c => do
  (Act.modify fun calls => calls ++ [(d, c)]).onFst
  (serve d c).onSnd

theorem Store.notedUnder_run (serve : δ → Store σ) (d : δ) (c : Call) (env : Env)
    (s : List (δ × Call) × σ) :
    Store.notedUnder serve d c env s = ⟨(serve d c env s.2).outcome, (serve d c env s.2).env,
      (s.1 ++ [(d, c)], (serve d c env s.2).state)⟩ := rfl

/-- Whatever steps have given the delegates: composing asks none of them, and fails with the first
capability that was left out; and a call of what is composed is noted once, under the delegate given last
for its capability, and ends as this delegate ends it. -/
theorem composed_calls (steps : List (Provision δ)) :
    (Spelled.all : List Capability).map Spelled.name = ["SchedulerStore", "JobStore", "TaskStore",
      "LockStore", "QuotaStore", "AttributeStore", "DeployStore"] ∧
    (∀ e, (Composer.given steps).build = .error e ↔ FirstNeverGiven steps e.missing) ∧
    ((∃ delegates, (Composer.given steps).build = .ok delegates) ↔ ∀ c, ¬ NeverGiven steps c) ∧
    (∀ (env : Env) (s : σ), ∃ journal, (Composer.given steps).compose env s =
      ⟨.ok (Composer.given steps).build, { env with journal := journal }, s⟩) ∧
    ∀ delegates, (Composer.given steps).build = .ok delegates → ∀ (serve : δ → Store σ) (c : Call)
      (o : Operation), c.Performs o → ∀ (env : Env) (noted : List (δ × Call)) (s : σ), ∃ d,
        GivenLast steps o.capability d ∧
        Store.forwarding (delegates.map (Store.notedUnder serve)) c env (noted, s) =
          ⟨(serve d c env s).outcome, (serve d c env s).env,
            (noted ++ [(d, c)], (serve d c env s).state)⟩ := by
  refine ⟨rfl, fun e => Composer.build_given_eq_error_iff, ?_, Composer.compose_run _, ?_⟩
  · simp only [Composer.exists_build_iff, ne_eq, Composer.delegate?_given_eq_none_iff]
  · intro delegates hbuild serve c o hperforms env noted s
    have hheld := Composer.delegate?_of_build hbuild o.capability
    refine ⟨delegates.of o.capability, Composer.delegate?_given_eq_some_iff.1 hheld, ?_⟩
    rw [Store.forwarding_of_performs _ hperforms, Delegates.of_map, Store.notedUnder_run]

/-- One backend for everything, then a second one for quotas: quotas are read from the second one, and
locks from the first. -/
theorem composed_calls_of_two :
    let steps : List (Provision Bool) := [.one .quota false, .all false, .one .quota true]
    ∃ delegates, (Composer.given steps).build = .ok delegates ∧
      ∀ (serve : Bool → Store Unit) (env : Env),
        let store := Store.forwarding (delegates.map (Store.notedUnder serve))
        store (.quota "r") env ([], ()) =
          ⟨(serve true (.quota "r") env ()).outcome, (serve true (.quota "r") env ()).env,
            ([(true, .quota "r")], (serve true (.quota "r") env ()).state)⟩ ∧
        store .locks env ([], ()) = ⟨(serve false .locks env ()).outcome, (serve false .locks env ()).env,
          ([(false, .locks)], (serve false .locks env ()).state)⟩ := by
  intro steps
  obtain ⟨-, -, hbuilds, -, hcalls⟩ := composed_calls (σ := Unit) steps
  obtain ⟨delegates, hbuild⟩ := hbuilds.2 fun c hnever => by
    cases hnever (.all false) (by simp [steps])
  refine ⟨delegates, hbuild, fun serve env => ?_⟩
  obtain ⟨d, hquota, hrun⟩ := hcalls delegates hbuild serve _ _ (.quota "r") env [] ()
  obtain ⟨d', hlock, hrun'⟩ := hcalls delegates hbuild serve _ _ .locks env [] ()
  cases Composer.delegate?_given_eq_some_iff.2 hquota
  cases Composer.delegate?_given_eq_some_iff.2 hlock
  exact ⟨hrun, hrun'⟩

end ClusterReads
