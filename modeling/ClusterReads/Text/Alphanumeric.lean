import ClusterReads.Text.Alphanumeric.Table
import ClusterReads.Text.Blank

/-!
# Letters and numbers

A character of any script that is a letter or a number. On ASCII this is core's class.
-/
namespace ClusterReads
namespace Text

def isAlphanumeric (c : Char) : Bool :=
  inRanges alphanumericRanges c.toNat

/-- Core's letters and digits of ASCII are among them. -/
theorem isAlphanumeric_of_isAlphanum {c : Char} (h : c.isAlphanum = true) : isAlphanumeric c = true := by
  have hascii : c.toNat < 128 := by
    delta Char.isAlphanum Char.isAlpha Char.isUpper Char.isLower Char.isDigit at h
    simp only [Bool.or_eq_true, Bool.and_eq_true, decide_eq_true_eq, UInt32.le_iff_toNat_le, ge_iff_le] at h
    have : c.toNat = c.val.toNat := rfl
    have : 'Z'.val.toNat = 90 := rfl
    have : 'z'.val.toNat = 122 := rfl
    have : '9'.val.toNat = 57 := rfl
    omega
  have hall : ∀ n : Fin 128, (Char.ofNat n).isAlphanum = true → inRanges alphanumericRanges n = true := by
    decide +kernel
  have := hall ⟨c.toNat, hascii⟩
  rw [Char.ofNat_toNat] at this
  exact this h

example : isAlphanumeric '\u00B2' = true := by decide +kernel
example : isAlphanumeric '\u00D7' = false := by decide +kernel

end Text
end ClusterReads
