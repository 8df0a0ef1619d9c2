import ClusterReads.Keyed
import ClusterReads.Spelled

/-!
# Hosts

The attributes of a host and whether it is being taken out of service.
-/
namespace ClusterReads

inductive MaintenanceMode where
  | none
  | scheduled
  | draining
  | drained
  deriving DecidableEq, Repr

instance : Inhabited MaintenanceMode := ⟨.none⟩

instance : Spelled MaintenanceMode where
  all := [.none, .scheduled, .draining, .drained]
  name
    | .none => "NONE"
    | .scheduled => "SCHEDULED"
    | .draining => "DRAINING"
    | .drained => "DRAINED"
  mem_all a := by cases a <;> decide
  name_injective a b := by cases a <;> cases b <;> decide

/-- A named attribute with its set of values. -/
structure Attribute where
  name : String
  values : SortedSet String
  deriving DecidableEq, Repr, Inhabited

/-- An attribute with the values of a list. -/
def Attribute.ofList (name : String) (values : List String) : Attribute :=
  ⟨name, .ofList values⟩

structure HostAttributes where
  host : String
  attributes : List Attribute
  mode : MaintenanceMode
  slaveId : Option String
  deriving DecidableEq, Repr, Inhabited

namespace HostAttributes

/-- The first attribute of a name. -/
def attribute? (h : HostAttributes) (name : String) : Option Attribute :=
  h.attributes.find? fun a => a.name == name

def inMaintenance (h : HostAttributes) : Bool :=
  h.mode != .none

end HostAttributes

end ClusterReads
