import ClusterReads.Decimal.Digits

/-!
# Shortest decimals

The shortest decimal that reads back as a given binary number, and of those the nearest to it. The
search runs over the decimal grids of 1, 2, … 17 digits; on each it looks at the two neighbours of the
number and keeps those inside the interval of reals that round to the number. All arithmetic is exact.
-/
namespace ClusterReads
namespace Decimal

/-- A positive binary number `mantissa · 2 ^ exponent`. -/
structure Binary where
  mantissa : Nat
  exponent : Int
  deriving DecidableEq, Repr

/-- A decimal number `coefficient · 10 ^ exponent`. -/
structure Scaled where
  coefficient : Nat
  exponent : Int
  deriving DecidableEq, Repr

/-- Moves trailing zeros of the coefficient into the exponent. -/
def Scaled.strip (s : Scaled) : Scaled :=
  if _h : s.coefficient ≠ 0 ∧ s.coefficient % 10 = 0 then
    Scaled.strip ⟨s.coefficient / 10, s.exponent + 1⟩
  else
    s
termination_by s.coefficient
decreasing_by omega

/-- The magnitude of a finite double, by its bits. -/
def Binary.ofFloat (x : Float) : Binary :=
  let bits := x.toBits.toNat % twoTo 63
  let biased := bits / twoTo 52
  let fraction := bits % twoTo 52
  if biased = 0 then ⟨fraction, -1074⟩ else ⟨twoTo 52 + fraction, Int.ofNat biased - 1075⟩

namespace Binary

/-- The number divided by `10 ^ k`, as units of the mantissa over a common denominator. -/
def gridUnit (b : Binary) (k : Int) : Nat × Nat :=
  (twoTo b.exponent.toNat * tenTo (-k).toNat, twoTo (-b.exponent).toNat * tenTo k.toNat)

/-- Whether the number is at least `10 ^ k`. -/
def atLeastPower (b : Binary) (k : Int) : Bool :=
  let (unit, den) := b.gridUnit k
  den ≤ b.mantissa * unit

/-- The exponent of the leading decimal digit. -/
def magnitude (b : Binary) : Int :=
  let guess := ((b.mantissa.log2 : Int) + b.exponent) * 30103 / 100000
  if b.atLeastPower (guess + 1) then guess + 1
  else if b.atLeastPower guess then guess
  else guess - 1

/-- Four times the distance, in units of the mantissa, down to the edge of the rounding interval. It is
halved where the next lower double is twice as near. -/
def lowerGap (b : Binary) : Nat :=
  if b.mantissa = twoTo 52 ∧ -1074 < b.exponent then 1 else 2

/-- Whether `c · 10 ^ k` rounds to the number. The ends of the interval belong to even mantissas. -/
def roundsFrom (b : Binary) (k : Int) (c : Nat) : Bool :=
  let (unit, den) := b.gridUnit k
  let low := (4 * b.mantissa - b.lowerGap) * unit
  let high := (4 * b.mantissa + 2) * unit
  let point := 4 * c * den
  if b.mantissa % 2 = 0 then low ≤ point && point ≤ high else low < point && point < high

/-- The better of the two neighbours on the grid of `10 ^ k`; of two equally near the even one. -/
def nearestOn (b : Binary) (k : Int) : Option Nat :=
  let (unit, den) := b.gridUnit k
  let below := b.mantissa * unit / den
  let rest := b.mantissa * unit % den
  match b.roundsFrom k below, b.roundsFrom k (below + 1) with
  | false, false => none
  | true, false => some below
  | false, true => some (below + 1)
  | true, true =>
    if 2 * rest < den ∨ (2 * rest = den ∧ below % 2 = 0) then some below else some (below + 1)

/-- The shortest decimal that rounds to the number. -/
def shortest (b : Binary) : Scaled :=
  let top := b.magnitude
  let found := (List.range 17).findSome? fun (n : Nat) =>
    (b.nearestOn (top - n)).map fun c => Scaled.mk c (top - n)
  (found.getD ⟨b.mantissa, b.exponent⟩).strip

end Binary

end Decimal
end ClusterReads
