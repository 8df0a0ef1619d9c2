/-!
# Faults

The two ways in which a computation stops without an answer: a sum that leaves the 64-bit words, and a
moment beyond the clock's range.
-/
namespace ClusterReads

inductive Fault where
  | sumOverflow
  | instantOverflow
  deriving DecidableEq, Repr, Inhabited

def Fault.message : Fault → String
  | .sumOverflow => "attempt to add with overflow"
  | .instantOverflow => "overflow when adding duration to instant"

/-- The sum of two words, if it is a word. -/
def addWords (a b : UInt64) : Except Fault UInt64 :=
  if a.toNat + b.toNat < UInt64.size then .ok (a + b) else .error .sumOverflow

theorem addWords_eq_ok_iff {a b c : UInt64} : addWords a b = .ok c ↔ c.toNat = a.toNat + b.toNat := by
  have hc : c.toNat < UInt64.size := c.toNat_lt_size
  unfold addWords
  split
  · next h =>
    rw [UInt64.size] at h
    simp only [Except.ok.injEq, ← UInt64.toNat_inj, UInt64.toNat_add]
    omega
  · next h =>
    simp only [reduceCtorEq, false_iff]
    omega

end ClusterReads
