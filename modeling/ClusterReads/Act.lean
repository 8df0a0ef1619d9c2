import ClusterReads.Audit.Trail
import ClusterReads.Cache.Table
import ClusterReads.Journal
import ClusterReads.Metrics

/-!
# Actions

A step of a store runs in surroundings that all stores share (clock, shared cache, audit trail, metrics,
journal) and on a state of its own. It ends with a value or a fault; what it did before a fault stays. In
which orders tables are walked is left open, as is how the readings of the clock grow.
-/
namespace ClusterReads

/-- What all stores share. -/
structure Env where
  clock : Clock
  /-- The cache that several stores may use together. -/
  cache : CacheTable
  trail : AuditTrail
  samples : List Sample
  journal : Journal
  /-- The orders in which tables are walked. -/
  [orders : EntryOrders]

/-- The order in which tables are walked now. -/
def Env.order (env : Env) : EntryOrder :=
  env.orders.orderAt env.clock.taken

/-- How an action on states `σ` ends. -/
structure Step (σ α : Type) where
  outcome : Except Fault α
  env : Env
  state : σ

def Act (σ α : Type) :=
  Env → σ → Step σ α

namespace Act

variable {σ ρ α β : Type}

def pure (a : α) : Act σ α :=
  fun env s => ⟨.ok a, env, s⟩

/-- The second action starts where the first one ended, unless that was at a fault. -/
def bind (x : Act σ α) (f : α → Act σ β) : Act σ β :=
  fun env s =>
    match x env s with
    | ⟨.ok a, env, s⟩ => f a env s
    | ⟨.error e, env, s⟩ => ⟨.error e, env, s⟩

instance : Monad (Act σ) where
  pure := pure
  bind := bind

@[ext] theorem ext {x y : Act σ α} (h : ∀ env s, x env s = y env s) : x = y :=
  funext fun env => funext fun s => h env s

theorem pure_run (a : α) (env : Env) (s : σ) : (Pure.pure a : Act σ α) env s = ⟨.ok a, env, s⟩ := rfl

theorem bind_run (x : Act σ α) (f : α → Act σ β) (env : Env) (s : σ) :
    (x >>= f) env s = match x env s with
      | ⟨.ok a, env, s⟩ => f a env s
      | ⟨.error e, env, s⟩ => ⟨.error e, env, s⟩ := rfl

theorem map_run (f : α → β) (x : Act σ α) (env : Env) (s : σ) :
    (f <$> x) env s = match x env s with
      | ⟨.ok a, env, s⟩ => ⟨.ok (f a), env, s⟩
      | ⟨.error e, env, s⟩ => ⟨.error e, env, s⟩ := rfl

instance : LawfulMonad (Act σ) := LawfulMonad.mk' (Act σ)
  (fun x => ext fun env s => by
    rw [map_run]
    rcases x env s with ⟨_ | _, _, _⟩ <;> rfl)
  (fun _ _ => rfl)
  (fun x f g => ext fun env s => by
    simp only [bind_run]
    rcases x env s with ⟨_ | _, _, _⟩ <;> rfl)

/-! ## The state -/

def get : Act σ σ :=
  fun env s => ⟨.ok s, env, s⟩

def modify (f : σ → σ) : Act σ Unit :=
  fun env s => ⟨.ok (), env, f s⟩

/-- Replaces the state by a step that also answers. -/
def step (f : σ → α × σ) : Act σ α :=
  fun env s => ⟨.ok (f s).1, env, (f s).2⟩

/-- An action on the first of two states. -/
def onFst (x : Act σ α) : Act (σ × ρ) α :=
  fun env s =>
    let r := x env s.1
    ⟨r.outcome, r.env, (r.state, s.2)⟩

/-- An action on the second of two states. -/
def onSnd (x : Act ρ α) : Act (σ × ρ) α :=
  fun env s =>
    let r := x env s.2
    ⟨r.outcome, r.env, (s.1, r.state)⟩

/-- An action on the shared cache. -/
def onShared (x : Act CacheTable α) : Act σ α :=
  fun env s =>
    let r := x env env.cache
    ⟨r.outcome, { r.env with cache := r.state }, s⟩

/-! ## The surroundings -/

def ask : Act σ Env :=
  fun env s => ⟨.ok env, env, s⟩

def change (f : Env → Env) : Act σ Unit :=
  fun env s => ⟨.ok (), f env, s⟩

/-- The next reading of the clock. -/
def now : Act σ Nat :=
  fun env s => ⟨.ok env.clock.reading, { env with clock := env.clock.tick }, s⟩

def log (level : LogLevel) (source : LogSource) (message : String)
    (fields : List (String × LogValue) := []) : Act σ Unit :=
  change fun env => { env with journal := env.journal.write level source message fields }

/-- Runs an action inside a span, which is left however the action ends. -/
def within (span : String) (x : Act σ α) : Act σ α :=
  fun env s =>
    let r := x { env with journal := env.journal.enter span } s
    ⟨r.outcome, { r.env with journal := r.env.journal.leave }, r.state⟩

/-- Gives the value or stops at the fault. -/
def attempt (e : Except Fault α) : Act σ α :=
  fun env s => ⟨e, env, s⟩

end Act

end ClusterReads
