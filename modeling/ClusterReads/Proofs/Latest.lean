import Mathlib.Data.List.Induction

/-!
# The latest entry of a list

Of a list that grows at its end only the latest entry of some kind may count: those before it are
overridden, and those after it are of no account. Main statement: an entry that is added either is that
latest one itself or leaves what was the latest before.
-/
namespace ClusterReads

variable {α : Type}

/-- An entry counts, and all later ones are of no account. -/
def Latest (Counts Idle : α → Prop) (l : List α) : Prop :=
  ∃ before a later, l = before ++ a :: later ∧ Counts a ∧ ∀ b ∈ later, Idle b

variable {Counts Idle : α → Prop}

theorem not_latest_nil : ¬ Latest Counts Idle [] := by
  rintro ⟨before, a, later, h, -⟩
  simp at h

theorem latest_snoc_iff (l : List α) (x : α) :
    Latest Counts Idle (l ++ [x]) ↔ Counts x ∨ (Idle x ∧ Latest Counts Idle l) := by
  constructor
  · rintro ⟨before, a, later, hsplit, hcounts, hidle⟩
    induction later using List.reverseRecOn with
    | nil =>
      obtain ⟨-, hx⟩ := List.append_inj' hsplit rfl
      cases hx
      exact Or.inl hcounts
    | append_singleton later last _ =>
      have hsplit : l ++ [x] = (before ++ a :: later) ++ [last] := by simpa using hsplit
      obtain ⟨rfl, hx⟩ := List.append_inj' hsplit rfl
      cases hx
      refine Or.inr ⟨hidle x (by simp), before, a, later, rfl, hcounts, fun b hb => ?_⟩
      exact hidle b (by simp [hb])
  · rintro (hcounts | ⟨hx, before, a, later, rfl, hcounts, hidle⟩)
    · exact ⟨l, x, [], rfl, hcounts, by simp⟩
    · refine ⟨before, a, later ++ [x], by simp, hcounts, ?_⟩
      rw [List.forall_mem_append, List.forall_mem_singleton]
      exact ⟨hidle, hx⟩

end ClusterReads
