import ClusterReads.Store

/-!
# Composition

A store composed of one delegate per capability. Delegates are given one by one or all at once, and a later
one replaces an earlier one; composing fails with the first capability that was given none. A composed store
hands every call to the delegate that owns it.
-/
namespace ClusterReads

variable {δ ε σ : Type}

/-- One delegate for each capability. -/
structure Delegates (δ : Type) where
  scheduler : δ
  job : δ
  task : δ
  lock : δ
  quota : δ
  attributes : δ
  deploy : δ

namespace Delegates

/-- The delegates of the capabilities. -/
def each (d : Capability → δ) : Delegates δ :=
  ⟨d .scheduler, d .job, d .task, d .lock, d .quota, d .attribute, d .deploy⟩

def map (f : δ → ε) (d : Delegates δ) : Delegates ε :=
  ⟨f d.scheduler, f d.job, f d.task, f d.lock, f d.quota, f d.attributes, f d.deploy⟩

end Delegates

/-- The delegates given so far. -/
structure Composer (δ : Type) where
  scheduler : Option δ
  job : Option δ
  task : Option δ
  lock : Option δ
  quota : Option δ
  attributes : Option δ
  deploy : Option δ

namespace Composer

def empty : Composer δ :=
  ⟨none, none, none, none, none, none, none⟩

def setScheduler (b : Composer δ) (d : δ) : Composer δ :=
  { b with scheduler := some d }

def setJob (b : Composer δ) (d : δ) : Composer δ :=
  { b with job := some d }

def setTask (b : Composer δ) (d : δ) : Composer δ :=
  { b with task := some d }

def setLock (b : Composer δ) (d : δ) : Composer δ :=
  { b with lock := some d }

def setQuota (b : Composer δ) (d : δ) : Composer δ :=
  { b with quota := some d }

def setAttributes (b : Composer δ) (d : δ) : Composer δ :=
  { b with attributes := some d }

def setDeploy (b : Composer δ) (d : δ) : Composer δ :=
  { b with deploy := some d }

/-- Gives the delegate for one capability. -/
def provide (b : Composer δ) : Capability → δ → Composer δ
  | .scheduler => b.setScheduler
  | .job => b.setJob
  | .task => b.setTask
  | .lock => b.setLock
  | .quota => b.setQuota
  | .attribute => b.setAttributes
  | .deploy => b.setDeploy

/-- Gives one delegate for all capabilities. -/
def provideAll (b : Composer δ) (d : δ) : Composer δ :=
  ((((((b.setScheduler d).setJob d).setTask d).setLock d).setQuota d).setAttributes d).setDeploy d

/-- The delegate given for a capability, or the error that there is none. -/
def required (c : Capability) : Option δ → Except CompositionError δ
  | some d => .ok d
  | none => .error ⟨c⟩

/-- The delegates, if none is missing. -/
def build (b : Composer δ) : Except CompositionError (Delegates δ) := do
  let scheduler ← required .scheduler b.scheduler
  let job ← required .job b.job
  let task ← required .task b.task
  let lock ← required .lock b.lock
  let quota ← required .quota b.quota
  let attributes ← required .attribute b.attributes
  let deploy ← required .deploy b.deploy
  return ⟨scheduler, job, task, lock, quota, attributes, deploy⟩

/-- Builds and notes it in the journal. -/
def compose (b : Composer δ) : Act σ (Except CompositionError (Delegates δ)) :=
  match b.build with
  | .error e => return .error e
  | .ok delegates => do
    Act.log .debug .composition "Composed forwarding store over seven delegates"
    return .ok delegates

end Composer

namespace Store

/-- Hands every call to the delegate that owns it. -/
def forwarding (d : Delegates (Store σ)) : Store σ
  | .frameworkId => d.scheduler .frameworkId
  | .jobs manager => d.job (.jobs manager)
  | .job manager key => d.job (.job manager key)
  | .managerIds => d.job .managerIds
  | .tasks query => d.task (.tasks query)
  | .locks => d.lock .locks
  | .lock key => d.lock (.lock key)
  | .quotas => d.quota .quotas
  | .quota role => d.quota (.quota role)
  | .host name => d.attributes (.host name)
  | .hosts => d.attributes .hosts
  | .deploys => d.deploy .deploys
  | .deploy id => d.deploy (.deploy id)

/-- A composed store, by the delegates of the capabilities. -/
def routed (delegates : Capability → Store σ) : Store σ :=
  forwarding (.each delegates)

end Store

/-- How a composed store shows itself: its delegates stay hidden. -/
def compositionText : String :=
  "ForwardingStore \x7b .. \x7d"

end ClusterReads
