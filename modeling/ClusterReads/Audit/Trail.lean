import ClusterReads.Audit.Event

/-!
# The audit trail

The most recent audit events, up to a capacity. A trail without capacity holds nothing.
-/
namespace ClusterReads

structure AuditTrail where
  capacity : Nat
  /-- The events held, oldest first. -/
  events : List AuditEvent
  deriving DecidableEq, Repr

namespace AuditTrail

def defaultCapacity : Nat :=
  10000

def new (capacity : Nat) : AuditTrail :=
  ⟨capacity, []⟩

instance : Inhabited AuditTrail := ⟨new defaultCapacity⟩

/-- Adds an event as the newest; the oldest are dropped until it fits. -/
def record (t : AuditTrail) (e : AuditEvent) : AuditTrail :=
  if t.capacity = 0 then t
  else { t with events := t.events.drop (t.events.length + 1 - t.capacity) ++ [e] }

def eventsFor (t : AuditTrail) (operation : Operation) : List AuditEvent :=
  t.events.filter fun e => e.operation == operation

def clear (t : AuditTrail) : AuditTrail :=
  { t with events := [] }

end AuditTrail

end ClusterReads
