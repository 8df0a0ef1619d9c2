import ClusterReads.Store

/-!
# Runs of a store

A run is any number of calls, one after another, with whatever others may do in between. Each call is
recorded as it found the store, so that what it came to can always be looked up again.
-/
namespace ClusterReads

variable {σ ρ : Type}

/-- A call, and how it finds the store. -/
structure Visit (σ : Type) where
  call : Call
  env : Env
  state : σ

namespace Store

/-- What a visit comes to. -/
def serve (store : Store σ) (v : Visit σ) : Step σ (StoreResult v.call.Answer) :=
  store v.call v.env v.state

/-- What others do leads from surroundings and a state to surroundings and a state. -/
abbrev Others (σ : Type) :=
  Env → σ → Env → σ → Prop

/-- The visits of a run so far, and what it has come to. -/
inductive Run (store : Store σ) (others : Others σ) (start : Env) (first : σ) :
    List (Visit σ) → Env → σ → Prop
  | empty : Run store others start first [] start first
  | call {past : List (Visit σ)} {env : Env} {s : σ} (c : Call)
      (h : Run store others start first past env s) :
      Run store others start first (past ++ [⟨c, env, s⟩]) (store c env s).env (store c env s).state
  | between {past : List (Visit σ)} {env later : Env} {s s' : σ}
      (h : Run store others start first past env s) (hothers : others env s later s') :
      Run store others start first past later s'

/-- Notes each call before passing it on. -/
def noted (inner : Store ρ) : Store (List Call × ρ) := fun c => do
  (Act.modify fun calls => calls ++ [c]).onFst
  (inner c).onSnd

theorem noted_run (inner : Store ρ) (c : Call) (env : Env) (s : List Call × ρ) :
    inner.noted c env s = ⟨(inner c env s.2).outcome, (inner c env s.2).env,
      (s.1 ++ [c], (inner c env s.2).state)⟩ := rfl

theorem counted_run (inner : Store ρ) (c : Call) (env : Env) (s : CallCounts × ρ) :
    inner.counted c env s = ⟨(inner c env s.2).outcome, (inner c env s.2).env,
      (s.1.add (CallCounts.label c), (inner c env s.2).state)⟩ := rfl

/-- A store beside other state leaves that state alone. -/
theorem onSnd_run {inner : Store ρ} {c : Call} {env : Env} {s : σ × ρ}
    {step : Step ρ (StoreResult c.Answer)} (h : inner c env s.2 = step) :
    Store.onSnd inner c env s = ⟨step.outcome, step.env, (s.1, step.state)⟩ := by
  rw [← h]
  rfl

end Store
end ClusterReads
