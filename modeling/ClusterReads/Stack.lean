import ClusterReads.Layer.Auditing
import ClusterReads.Layer.Caching
import ClusterReads.Layer.Instrumentation
import ClusterReads.Layer.Validation

/-!
# Stacks of layers

A stack is a base store under a list of layers, the outermost first. Each layer has its own state beside the
state of what it covers, so the state of a stack is a product along the list.
-/
namespace ClusterReads

/-- Which cache a caching layer uses. -/
inductive CacheHome where
  /-- A table of its own, of this capacity. -/
  | own (capacity : Nat)
  /-- The shared table, with some methods out of order. -/
  | shared (broken : List CacheService.Method)
  deriving DecidableEq, Repr

namespace CacheHome

def State : CacheHome → Type
  | .own _ => CacheTable
  | .shared _ => Unit

def start : (h : CacheHome) → h.State
  | .own capacity => CacheTable.new capacity
  | .shared _ => ()

def service : (h : CacheHome) → CacheService h.State
  | .own _ => CacheService.table
  | .shared broken => CacheService.broken broken CacheService.shared

end CacheHome

inductive Layer where
  | validation
  /-- Keeps answers for a time in nanoseconds. -/
  | caching (home : CacheHome) (ttl : Nat)
  | audit (sink : Auditing.Sink) (operations : SortedSet Operation)
  | instrumentation (settings : Instrumentation.Settings)
  deriving DecidableEq, Repr

namespace Layer

def kind : Layer → String
  | .validation => "validation"
  | .caching _ _ => "caching"
  | .audit _ _ => "audit"
  | .instrumentation _ => "instrumentation"

def State : Layer → Type
  | .validation | .audit _ _ => Unit
  | .caching home _ => CachingState home.State
  | .instrumentation _ => InstrumentationState

def start : (l : Layer) → l.State
  | .validation | .audit _ _ => ()
  | .caching home _ => ⟨home.start, 0⟩
  | .instrumentation _ => (.empty : SortedMap Operation OperationStats)

/-- The store that a layer makes of the store under it. -/
def around {ρ : Type} (inner : Store ρ) : (l : Layer) → Store (l.State × ρ)
  | .validation => Store.onSnd (Validation.layer inner)
  | .caching home ttl => Caching.layer home.service ttl inner
  | .audit sink operations => Store.onSnd (Auditing.layer sink operations inner)
  | .instrumentation settings => Instrumentation.layer settings inner

end Layer

namespace Layers

variable {σ α : Type}

/-- The states of the layers, beside the state `σ` of the base. -/
def State (σ : Type) : List Layer → Type
  | [] => σ
  | l :: rest => l.State × State σ rest

/-- The state of a stack before its first call. -/
def start (s : σ) : (layers : List Layer) → State σ layers
  | [] => s
  | l :: rest => (l.start, start s rest)

/-- The store of a stack. -/
def store (base : Store σ) : (layers : List Layer) → Store (State σ layers)
  | [] => base
  | l :: rest => l.around (store base rest)

/-- The kinds of the layers, innermost first. -/
def kinds (layers : List Layer) : List String :=
  layers.reverse.map Layer.kind

/-- An action on the base. -/
def onBase (x : Act σ α) : (layers : List Layer) → Act (State σ layers) α
  | [] => x
  | _ :: rest => (onBase x rest).onSnd

/-- An action on the outermost caching layer, if there is one. -/
def onCaching? (x : (home : CacheHome) → Act (CachingState home.State) α) :
    (layers : List Layer) → Option (Act (State σ layers) α)
  | [] => none
  | .caching home _ :: _ => some (x home).onFst
  | .validation :: rest | .audit _ _ :: rest | .instrumentation _ :: rest =>
    (onCaching? x rest).map Act.onSnd

/-- An action on the outermost instrumentation layer, if there is one. -/
def onInstrumentation? (x : Act InstrumentationState α) :
    (layers : List Layer) → Option (Act (State σ layers) α)
  | [] => none
  | .instrumentation _ :: _ => some x.onFst
  | .validation :: rest | .audit _ _ :: rest | .caching _ _ :: rest =>
    (onInstrumentation? x rest).map Act.onSnd

/-- The operations that the outermost auditing layer records, if there is one. -/
def audited? : List Layer → Option (SortedSet Operation)
  | [] => none
  | .audit _ operations :: _ => some operations
  | .validation :: rest | .caching _ _ :: rest | .instrumentation _ :: rest => audited? rest

end Layers

end ClusterReads
