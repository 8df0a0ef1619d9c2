/-!
# Enumerations with names

A finite type whose values are listed in order and have one name each. A value is found by its name.
-/
namespace ClusterReads

class Spelled (α : Type) where
  /-- All values, in their order. -/
  all : List α
  name : α → String
  mem_all : ∀ a, a ∈ all
  name_injective : ∀ a b, name a = name b → a = b

namespace Spelled

variable {α : Type} [Spelled α]

/-- The value with a name. -/
def ofName? (s : String) : Option α :=
  (all : List α).find? fun a => name a == s

@[simp] theorem ofName?_name (a : α) : ofName? (name a) = some a := by
  cases h : (ofName? (name a) : Option α) with
  | none => simpa using List.find?_eq_none.1 h a (mem_all a)
  | some b =>
    have hb := List.find?_some h
    rw [name_injective b a (by simpa using hb)]

theorem name_of_ofName? {s : String} {a : α} (h : ofName? s = some a) : name a = s := by
  simpa using List.find?_some h

end Spelled

end ClusterReads
