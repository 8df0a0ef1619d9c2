import ClusterReads.Decimal.Literal

/-!
# Doubles read back

What a reader that scales leading digits makes of the shortest digits of a double. It is the double
itself for many, and a neighbour for some: the scaling rounds more than once.
-/
namespace ClusterReads
namespace Decimal

/-- The double that is read back for a double, if one is. -/
def reread? (x : Float) : Option Float :=
  if x.isFinite then (FloatStyle.json.literal x).scaled? else none

theorem isFinite_of_reread? {x : Float} (h : (reread? x).isSome = true) : x.isFinite = true := by
  rw [reread?] at h
  split at h
  · assumption
  · cases h

/-- Digits that end in no zero and are the first that round to a number are its shortest. -/
theorem Binary.shortest_eq {b : Binary} {s : Scaled}
    (h : ((List.range 17).findSome? fun (n : Nat) =>
      (b.nearestOn (b.magnitude - n)).map fun c => Scaled.mk c (b.magnitude - n)) = some s)
    (hlast : s.coefficient % 10 ≠ 0) : b.shortest = s := by
  unfold shortest
  dsimp only
  rw [h, Option.getD_some, Scaled.strip, dif_neg (fun hzero => hlast hzero.2)]

theorem reread?_eq {x : Float} {b : Binary} {s : Scaled} (hfinite : x.isFinite = true)
    (hbinary : Binary.ofFloat x = b) (hnonzero : b.mantissa ≠ 0) (hshortest : b.shortest = s) :
    reread? x = (FloatStyle.json.layout (twoTo 63 ≤ x.toBits.toNat) s).scaled? := by
  unfold reread? FloatStyle.literal
  rw [if_pos hfinite, hbinary]
  dsimp only
  rw [if_neg hnonzero, hshortest]

/-- Four is read back as itself. -/
theorem reread?_four :
    reread? (Float.ofBits 4616189618054758400) = some (Float.ofBits 4616189618054758400) := by
  have hshortest : Binary.shortest ⟨4503599627370496, -50⟩ = ⟨4, 0⟩ :=
    Binary.shortest_eq (by decide +kernel) (by decide)
  have hdigits : digits 4 = ['4'] := by
    rw [digits, if_pos (by decide)]
    rfl
  rw [reread?_eq (by decide +kernel) (by decide +kernel) (by decide) hshortest, FloatStyle.layout]
  dsimp only
  rw [hdigits]
  decide +kernel

/-- The double 1152921504606867456 is read back as the next one, 1152921504606867712. -/
theorem reread?_large :
    reread? (Float.ofBits 4877398396442247248) = some (Float.ofBits 4877398396442247249) := by
  have hshortest : Binary.shortest ⟨4503599627370576, 8⟩ = ⟨11529215046068675, 2⟩ :=
    Binary.shortest_eq (by decide +kernel) (by decide)
  have hdigits : digits 11529215046068675 = "11529215046068675".toList := by
    simp [digits]
    decide
  rw [reread?_eq (by decide +kernel) (by decide +kernel) (by decide) hshortest, FloatStyle.layout]
  dsimp only
  rw [hdigits]
  decide +kernel

end Decimal
end ClusterReads
