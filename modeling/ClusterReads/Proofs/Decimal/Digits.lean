import Mathlib.Algebra.Group.Nat.Defs
import ClusterReads.Decimal.Literal

/-!
# Digits among other text

Digits that are followed by no further digit are taken whole. Main statements: a padded number has
its width and its value, and a literal of a layout has digits only after its point.
-/
namespace ClusterReads
namespace Decimal

/-- The digits are taken whole where no digit follows. -/
theorem span_append {ds rest : List Char} (hds : ∀ c ∈ ds, c.isDigit = true)
    (hrest : ∀ c, rest.head? = some c → c.isDigit = false) : span (ds ++ rest) = (ds, rest) := by
  have htake : rest.takeWhile Char.isDigit = [] ∧ rest.dropWhile Char.isDigit = rest := by
    cases rest with
    | nil => exact ⟨rfl, rfl⟩
    | cons c cs => simp [hrest c rfl]
  unfold span
  rw [List.takeWhile_append_of_pos hds, List.dropWhile_append_of_pos hds, htake.1, htake.2,
    List.append_nil]

theorem span_digits (n : Nat) {rest : List Char}
    (hrest : ∀ c, rest.head? = some c → c.isDigit = false) :
    span (digits n ++ rest) = (digits n, rest) :=
  span_append (fun _ => isDigit_of_mem_digits) hrest

theorem digitChar_ne_zero {d : Nat} (h : d < 10) (hd : d ≠ 0) : digitChar d ≠ '0' := by
  intro heq
  have := congrArg Char.toNat heq
  rw [digitChar_toNat h] at this
  change 48 + d = 48 at this
  omega

/-- Digits do not start with a zero, but for zero itself. -/
theorem digits_head? {n : Nat} (hn : n ≠ 0) : (digits n).head? ≠ some '0' := by
  induction n using digits.induct with
  | case1 n h =>
    rw [digits, if_pos h]
    simpa using digitChar_ne_zero h hn
  | case2 n h ih =>
    have hne := digits_ne_nil (n / 10)
    have hrest := ih (by omega)
    rw [digits, if_neg h]
    cases hds : digits (n / 10) with
    | nil => exact absurd hds hne
    | cons d ds =>
      rw [hds] at hrest
      exact hrest

theorem digits_head_isDigit (n : Nat) : ∃ c ds, digits n = c :: ds ∧ c.isDigit = true := by
  cases h : digits n with
  | nil => exact absurd h (digits_ne_nil n)
  | cons c ds => exact ⟨c, ds, rfl, isDigit_of_mem_digits (n := n) (h ▸ List.mem_cons_self)⟩

/-! ## Padding -/

theorem digits_length_le {n k : Nat} (h : n < 10 ^ k) (hk : 0 < k) : (digits n).length ≤ k := by
  induction n using digits.induct generalizing k with
  | case1 n hn =>
    rw [digits, if_pos hn]
    exact hk
  | case2 n hn ih =>
    obtain ⟨k, rfl⟩ : ∃ i, k = i + 1 := ⟨k - 1, by omega⟩
    rw [Nat.pow_succ] at h
    have hk : 0 < k := by
      rcases Nat.eq_zero_or_pos k with rfl | hk
      · omega
      · exact hk
    have hrest := ih (k := k) (by omega) hk
    rw [digits, if_neg hn, List.length_append, List.length_singleton]
    omega

theorem padded_length {n k : Nat} (h : n < 10 ^ k) (hk : 0 < k) : (padded k n).length = k := by
  have hle := digits_length_le h hk
  rw [padded, List.length_append, List.length_replicate]
  omega

theorem isDigit_of_mem_padded {k n : Nat} {c : Char} (h : c ∈ padded k n) : c.isDigit = true := by
  rw [padded, List.mem_append] at h
  rcases h with h | h
  · rw [List.eq_of_mem_replicate h]
    rfl
  · exact isDigit_of_mem_digits h

theorem padded_ne_nil (k n : Nat) : padded k n ≠ [] := by
  rw [padded]
  intro h
  exact digits_ne_nil n (List.append_eq_nil_iff.1 h).2

theorem valueFrom_zeros (k : Nat) : valueFrom 0 (List.replicate k '0') = 0 := by
  induction k with
  | zero => rfl
  | succ k ih => exact ih

@[simp] theorem value_padded (k n : Nat) : value (padded k n) = n := by
  rw [padded, value, valueFrom_append, valueFrom_zeros]
  exact value_digits n

/-! ## Literals -/

/-- The digits after the point are digits. -/
def Literal.Written (l : Literal) : Prop :=
  ∀ c ∈ l.fraction, c.isDigit = true

/-- A layout has digits only after its point. -/
theorem FloatStyle.layout_written (style : FloatStyle) (negative : Bool) (s : Scaled) :
    (style.layout negative s).Written := by
  intro c hc
  unfold layout at hc
  simp only at hc
  split at hc
  · split at hc
    · simp only at hc
      split at hc
      · rw [List.mem_singleton] at hc
        exact hc ▸ rfl
      · cases hc
    · exact isDigit_of_mem_padded hc
  · exact isDigit_of_mem_digits (List.mem_of_mem_drop hc)

theorem FloatStyle.literal_written (style : FloatStyle)
    (x : Float) : (style.literal x).Written := by
  unfold literal
  simp only
  split
  · intro c hc
    simp only at hc
    split at hc
    · rw [List.mem_singleton] at hc
      exact hc ▸ rfl
    · cases hc
  · exact layout_written style _ _

end Decimal
end ClusterReads
