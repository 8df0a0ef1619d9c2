/-!
# Sets of records

A finite set of records that need no order of their own: a list without repetition. A list that has none
is its own set.
-/
namespace ClusterReads

structure Distinct (α : Type) where
  toList : List α
  nodup : toList.Nodup
  deriving DecidableEq, Repr

namespace Distinct

variable {α : Type}

def empty : Distinct α :=
  ⟨[], .nil⟩

instance : Inhabited (Distinct α) := ⟨empty⟩

/-- Adds a record unless it is already held. -/
def add [DecidableEq α] (s : Distinct α) (a : α) : Distinct α :=
  if h : a ∈ s.toList then s
  else ⟨s.toList ++ [a], by
    refine List.nodup_append.2 ⟨s.nodup, by simp, ?_⟩
    intro b hb c hc
    rw [List.mem_singleton] at hc
    subst hc
    intro hbc
    exact h (hbc ▸ hb)⟩

def ofList [DecidableEq α] (l : List α) : Distinct α :=
  l.foldl add empty

@[ext] theorem ext {s t : Distinct α} (h : s.toList = t.toList) : s = t := by
  cases s
  cases t
  cases h
  rfl

theorem toList_add_of_not_mem [DecidableEq α] {s : Distinct α} {a : α} (h : a ∉ s.toList) :
    (s.add a).toList = s.toList ++ [a] := by
  simp [add, h]

theorem foldl_add_toList [DecidableEq α] (l : List α) (s : Distinct α)
    (h : (s.toList ++ l).Nodup) : (l.foldl add s).toList = s.toList ++ l := by
  induction l generalizing s with
  | nil => simp
  | cons a rest ih =>
    have ha : a ∉ s.toList := by
      intro hmem
      exact (List.nodup_append.1 h).2.2 a hmem a (by simp) rfl
    have hadd := toList_add_of_not_mem ha
    rw [List.foldl_cons, ih (s.add a) (by simpa [hadd] using h), hadd]
    simp

/-- A list without repetition is its own set. -/
theorem toList_ofList [DecidableEq α] {l : List α} (h : l.Nodup) : (ofList l).toList = l := by
  simpa [ofList, empty] using foldl_add_toList l empty (by simpa [empty] using h)

@[simp] theorem ofList_toList [DecidableEq α] (s : Distinct α) : ofList s.toList = s :=
  ext (toList_ofList s.nodup)

theorem mem_toList_add [DecidableEq α] (s : Distinct α) (a b : α) :
    b ∈ (s.add a).toList ↔ b ∈ s.toList ∨ b = a := by
  by_cases h : a ∈ s.toList
  · simp only [add, dif_pos h]
    constructor
    · exact Or.inl
    · rintro (hb | rfl)
      · exact hb
      · exact h
  · simp [toList_add_of_not_mem h]

theorem mem_foldl_add [DecidableEq α] (l : List α) (s : Distinct α) (b : α) :
    b ∈ (l.foldl add s).toList ↔ b ∈ s.toList ∨ b ∈ l := by
  induction l generalizing s with
  | nil => simp
  | cons a rest ih => rw [List.foldl_cons, ih, mem_toList_add, List.mem_cons, or_assoc]

/-- A set holds what was in the list it was made of. -/
theorem mem_ofList [DecidableEq α] (l : List α) (b : α) : b ∈ (ofList l).toList ↔ b ∈ l := by
  rw [ofList, mem_foldl_add]
  simp [empty]

end Distinct

end ClusterReads
