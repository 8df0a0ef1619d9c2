/-!
# Texts around a mark

A text with a mark between its two parts is read in one way if the parts on one side do not have the mark:
those before it end at the first mark, those after it begin at the last.
-/
namespace ClusterReads
namespace Text

variable {α : Type} {mark : α} {l l' r r' : List α}

theorem append_mark_inj_of_left (hl : mark ∉ l) (hl' : mark ∉ l') :
    l ++ mark :: r = l' ++ mark :: r' ↔ l = l' ∧ r = r' := by
  constructor
  · intro h
    rcases List.append_eq_append_iff.1 h with ⟨m, rfl, hm⟩ | ⟨m, rfl, hm⟩
    all_goals
      cases m with
      | nil => simpa [eq_comm] using hm
      | cons c m =>
        -- a part that goes on beyond the mark of the other has that mark
        obtain ⟨rfl, -⟩ := List.cons_eq_cons.1 hm
        simp at hl hl'
  · rintro ⟨rfl, rfl⟩
    rfl

theorem append_mark_inj_of_right (hr : mark ∉ r) (hr' : mark ∉ r') :
    l ++ mark :: r = l' ++ mark :: r' ↔ l = l' ∧ r = r' := by
  have hback : r.reverse ++ mark :: l.reverse = r'.reverse ++ mark :: l'.reverse ↔
      r.reverse = r'.reverse ∧ l.reverse = l'.reverse :=
    append_mark_inj_of_left (by simpa using hr) (by simpa using hr')
  rw [← List.reverse_inj, List.reverse_append, List.reverse_append, List.reverse_cons, List.reverse_cons,
    List.append_assoc, List.append_assoc, List.singleton_append, List.singleton_append, hback,
    List.reverse_inj, List.reverse_inj, and_comm]

end Text
end ClusterReads
