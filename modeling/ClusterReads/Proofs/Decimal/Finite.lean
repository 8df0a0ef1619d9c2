import Mathlib
import ClusterReads.Decimal.Literal

/-!
# The range of doubles

What is read from a decimal literal is a finite double. The reader scales a word by powers of ten; each
product that leaves the range is refused, and a quotient by a number from one on leaves nothing. The
bounds are on the exponents of the numbers, and follow the arithmetic through its roundings. Main
statements: a literal is read as a finite double if it is read, and a word is always read.
-/
namespace ClusterReads
namespace Decimal

open Float.Model Float.Model.UnpackedFloat

/-- A number, with its exponent at most `k`. -/
def Within (k : Int) : UnpackedFloat → Prop
  | .zero _ => True
  | .finite _ _ e _ => e ≤ k
  | .infinity _ => False
  | .notANumber => False

theorem Within.mono {k n : Int} {f : UnpackedFloat} (h : Within k f) (hkn : k ≤ n) : Within n f := by
  cases f with
  | zero s => trivial
  | finite s m e hm => exact Int.le_trans h hkn
  | infinity s => exact h
  | notANumber => exact h

/-- A number of 53 bits, with its exponent at most `k`. -/
def Stored (k : Int) : UnpackedFloat → Prop
  | .zero _ => True
  | .finite _ m e _ => m.log2 ≤ 52 ∧ e ≤ k
  | .infinity _ => False
  | .notANumber => False

instance (k : Int) : DecidablePred (Stored k)
  | .zero _ => .isTrue trivial
  | .finite _ m e _ => inferInstanceAs (Decidable (m.log2 ≤ 52 ∧ e ≤ k))
  | .infinity _ => .isFalse id
  | .notANumber => .isFalse id

/-- A number from one on. -/
def FromOne : UnpackedFloat → Prop
  | .finite _ m e _ => 1 ≤ totalExponent m e
  | _ => False

instance : DecidablePred FromOne
  | .finite _ m e _ => inferInstanceAs (Decidable (1 ≤ totalExponent m e))
  | .zero _ => .isFalse id
  | .infinity _ => .isFalse id
  | .notANumber => .isFalse id

theorem Stored.mono {k n : Int} {f : UnpackedFloat} (h : Stored k f) (hkn : k ≤ n) : Stored n f := by
  cases f with
  | zero s => trivial
  | finite s m e hm => exact ⟨h.1, Int.le_trans h.2 hkn⟩
  | infinity s => exact h
  | notANumber => exact h

theorem Stored.isFinite {k : Int} {f : UnpackedFloat} (h : Stored k f) : f.isFinite = true := by
  cases f with
  | zero s => rfl
  | finite s m e hm => rfl
  | infinity s => exact h.elim
  | notANumber => exact h.elim

theorem FromOne.isFinite {f : UnpackedFloat} (h : FromOne f) : f.isFinite = true := by
  cases f with
  | finite s m e hm => rfl
  | zero s => exact h.elim
  | infinity s => exact h.elim
  | notANumber => exact h.elim

/-! ## Lengths in bits -/

theorem log2_le_of_lt {n k : Nat} (h : n < 2 ^ (k + 1)) : n.log2 ≤ k := by
  rcases Nat.eq_zero_or_pos n with rfl | hn
  · simp
  · have := (Nat.log2_lt (by omega)).2 h
    omega

theorem log2_succ_le (n : Nat) : (n + 1).log2 ≤ n.log2 + 1 := by
  apply log2_le_of_lt
  have hn : n < 2 ^ (n.log2 + 1) := Nat.lt_log2_self
  have hpow : 2 ^ (n.log2 + 1 + 1) = 2 ^ (n.log2 + 1) * 2 := Nat.pow_succ ..
  omega

theorem log2_div_pow (n k : Nat) : (n / 2 ^ k).log2 = n.log2 - k := by
  rw [Nat.log2_eq_log_two, Nat.log2_eq_log_two, Nat.log_div_base_pow]

theorem log2_mul_le (m n : Nat) : (m * n).log2 ≤ m.log2 + n.log2 + 1 := by
  apply log2_le_of_lt
  calc m * n < 2 ^ (m.log2 + 1) * 2 ^ (n.log2 + 1) :=
        Nat.mul_lt_mul'' Nat.lt_log2_self Nat.lt_log2_self
    _ = 2 ^ (m.log2 + n.log2 + 1 + 1) := by rw [← Nat.pow_add]; congr 1; omega

theorem log2_shiftLeft_le (n k : Nat) : (n <<< k).log2 ≤ n.log2 + k := by
  apply log2_le_of_lt
  rw [Nat.shiftLeft_eq]
  calc n * 2 ^ k < 2 ^ (n.log2 + 1) * 2 ^ k :=
        Nat.mul_lt_mul_of_pos_right Nat.lt_log2_self (Nat.two_pow_pos k)
    _ = 2 ^ (n.log2 + k + 1) := by rw [← Nat.pow_add]; congr 1; omega

/-- A quotient is as much shorter as its divisor is long, but for one bit. -/
theorem log2_div_le {m n : Nat} (hn : n ≠ 0) : (m / n).log2 ≤ m.log2 - n.log2 := by
  rw [← log2_div_pow, Nat.log2_eq_log_two, Nat.log2_eq_log_two]
  exact Nat.log_mono_right (Nat.div_le_div_left (Nat.log2_self_le hn) (Nat.two_pow_pos _))

/-! ## Rounding -/

theorem shiftRight_mantissa (em : ExtendedMantissa) (k : Nat) :
    (em >>> k).mantissa = em.mantissa / 2 ^ k := by
  induction k with
  | zero => simp [HShiftRight.hShiftRight, Nat.repeat]
  | succ k ih =>
    change (em >>> k).mantissa / 2 = em.mantissa / 2 ^ (k + 1)
    rw [ih, Nat.div_div_eq_div_mul, Nat.pow_succ]

theorem roundedMantissa_le (em : ExtendedMantissa) : em.roundedMantissa ≤ em.mantissa + 1 := by
  obtain ⟨m, round, sticky⟩ := em
  cases round <;> cases sticky <;>
    simp [ExtendedMantissa.roundedMantissa, ExtendedMantissa.accuracy, Accuracy.roundToNearestEven]
  omega

theorem ofMantissaAndAccuracy_mantissa (m : Nat) (a : Accuracy) :
    (ExtendedMantissa.ofMantissaAndAccuracy m a).mantissa = m := by
  cases a with
  | exact => rfl
  | inexact o => cases o <;> rfl

/-- How far a mantissa is shifted to its place. -/
def placeShift (m : Nat) (e : Int) : Nat :=
  (Format.binary64.targetExponent (totalExponent m e) - e).toNat

theorem placeShift_eq (m : Nat) (e : Int) :
    (placeShift m e : Int) = max 0 (max ((m.log2 : Int) - 52) (-1074 - e)) := by
  simp only [placeShift, Format.targetExponent, totalExponent, Format.mantissaBits, Format.minExponent]
  omega

theorem shiftToTargetExponent_mantissa (m : Nat) (e : Int) (a : Accuracy) :
    (shiftToTargetExponent Format.binary64 m e a).1.mantissa = m / 2 ^ placeShift m e := by
  refine (shiftRight_mantissa _ _).trans ?_
  rw [ofMantissaAndAccuracy_mantissa]
  rfl

/-- Rounding moves the exponent no further than the length of the mantissa asks for. -/
theorem within_roundWithAccuracy (s : Sign) (m : Nat) (e : Int) (a : Accuracy) :
    Within (max e (max (m.log2 + e - 51) (-1074))) (roundWithAccuracy Format.binary64 s m e a) := by
  have hrounded : (shiftToTargetExponent Format.binary64 m e a).1.roundedMantissa.log2 ≤
      m.log2 - placeShift m e + 1 := by
    have hle := roundedMantissa_le (shiftToTargetExponent Format.binary64 m e a).1
    rw [shiftToTargetExponent_mantissa] at hle
    rw [← log2_div_pow]
    refine Nat.le_trans ?_ (log2_succ_le _)
    rw [Nat.log2_eq_log_two, Nat.log2_eq_log_two]
    exact Nat.log_mono_right hle
  have hfirst := placeShift_eq m e
  have hsecond := placeShift_eq (shiftToTargetExponent Format.binary64 m e a).1.roundedMantissa
    (e + placeShift m e)
  rw [roundWithAccuracy]
  simp only
  split
  · trivial
  · change e + placeShift m e + placeShift _ (e + placeShift m e) ≤ _
    omega

/-! ## Arithmetic -/

theorem within_mul {a b : Int} {f g : UnpackedFloat} (hf : Stored a f) (hg : Stored b g) :
    Within (max (a + b + 54) (-1074)) (UnpackedFloat.mul Format.binary64 f g) := by
  cases f with
  | infinity s => exact hf.elim
  | notANumber => exact hf.elim
  | zero s =>
    cases g with
    | infinity s => exact hg.elim
    | notANumber => exact hg.elim
    | zero s => trivial
    | finite s m e hm => trivial
  | finite s m e hm =>
    cases g with
    | infinity s => exact hg.elim
    | notANumber => exact hg.elim
    | zero s => trivial
    | finite s' n e' hn =>
      have hlength := log2_mul_le m n
      obtain ⟨hm, he⟩ := hf
      obtain ⟨hn, he'⟩ := hg
      exact (within_roundWithAccuracy (s * s') (m * n) (e + e') .exact).mono (by omega)

/-- The exponent and the length of a quotient before it is rounded. -/
theorem divCore_le (m : Nat) (e : Int) {n : Nat} (hn : n ≠ 0) (e' : Int) :
    (divCore Format.binary64 m e n e').2.1 ≤
        max ((m.log2 : Int) + e - (n.log2 + e') - 53) (-1074) ∧
      ((divCore Format.binary64 m e n e').1.log2 : Int) + (divCore Format.binary64 m e n e').2.1 ≤
        max ((m.log2 : Int) + e - (n.log2 + e')) (divCore Format.binary64 m e n e').2.1 := by
  simp only [divCore, Format.targetExponent, totalExponent, Format.mantissaBits, Format.minExponent]
  generalize ht : min (e - e') _ = t
  have hquotient := log2_div_le (m := m <<< (e - e' - t).toNat) hn
  have hshift := log2_shiftLeft_le m (e - e' - t).toNat
  constructor <;> omega

/-- Dividing by a number from one on moves the exponent up by one at most. -/
theorem within_div {a : Int} {f g : UnpackedFloat} (hf : Stored a f) (hg : FromOne g) :
    Within (max (a + 1) (-1074)) (UnpackedFloat.div Format.binary64 f g) := by
  cases g with
  | infinity s => exact hg.elim
  | notANumber => exact hg.elim
  | zero s => exact hg.elim
  | finite s' n e' hn =>
    cases f with
    | infinity s => exact hf.elim
    | notANumber => exact hf.elim
    | zero s => trivial
    | finite s m e hm =>
      have hcore := divCore_le m e (Nat.pos_iff_ne_zero.1 hn) e'
      obtain ⟨hm, he⟩ := hf
      have hone : 1 ≤ (n.log2 : Int) + 1 + e' := hg
      change Within _ (roundWithAccuracy Format.binary64 (s / s') (divCore Format.binary64 m e n e').1
        (divCore Format.binary64 m e n e').2.1 (divCore Format.binary64 m e n e').2.2)
      generalize divCore Format.binary64 m e n e' = q at hcore ⊢
      exact (within_roundWithAccuracy (s / s') q.1 q.2.1 q.2.2).mono (by omega)

/-- A word has 64 bits, of which 53 are kept. -/
theorem within_ofUInt64 (w : UInt64) : Within 12 (UnpackedFloat.ofUInt64 Format.binary64 w) := by
  have hlength : w.toNat.log2 ≤ 63 := log2_le_of_lt w.toNat_lt
  rcases Nat.eq_zero_or_pos w.toNat with hzero | hpos
  · rw [UnpackedFloat.ofUInt64, UnpackedFloat.ofNat, UnpackedFloat.ofInt, hzero]
    trivial
  · have hround : UnpackedFloat.ofUInt64 Format.binary64 w =
        UnpackedFloat.round Format.binary64 .positive w.toNat 0 := by
      rw [UnpackedFloat.ofUInt64, UnpackedFloat.ofNat, UnpackedFloat.ofInt, UnpackedFloat.normalize,
        Int.compare_eq_gt.2 (by omega)]
      rfl
    rw [hround, UnpackedFloat.round, decreaseExponent]
    generalize (0 - Format.binary64.targetExponent (totalExponent w.toNat 0)).toNat = k
    have hshift := log2_shiftLeft_le w.toNat k
    exact (within_roundWithAccuracy .positive _ _ .exact).mono (by omega)

/-! ## Packing -/

/-- Bits whose exponent is not the last one are a number. -/
theorem stored_unpack {b : BitVec Format.binary64.numBits} (hb : unpackExponent b ≠ -1#11) :
    Stored (max 1 (unpackExponent b).toNat - 1075) (UnpackedFloat.unpack Format.binary64 b) := by
  unfold UnpackedFloat.unpack
  simp only [Format.exponentBias]
  rw [if_neg hb]
  split
  · next hzero =>
    split
    · trivial
    · refine ⟨?_, ?_⟩
      · have := log2_le_of_lt (k := 52) (Nat.lt_trans (unpackMantissa b).isLt (by decide))
        exact this
      · simp [hzero]
  · refine ⟨log2_le_of_lt (BitVec.isLt _), ?_⟩
    omega

theorem stored_pack {k : Int} {f : UnpackedFloat} (hf : Within k f) (hlow : -1074 ≤ k)
    (hhigh : k ≤ 971) :
    Stored k (UnpackedFloat.unpack Format.binary64 (UnpackedFloat.pack Format.binary64 f)) := by
  suffices h : (unpackExponent (UnpackedFloat.pack Format.binary64 f)).toNat ≤ (k + 1075).toNat by
    have hlast : unpackExponent (UnpackedFloat.pack Format.binary64 f) ≠ -1#11 := by
      intro heq
      rw [heq] at h
      change 2047 ≤ _ at h
      omega
    exact (stored_unpack hlast).mono (by omega)
  cases f with
  | infinity s => exact hf.elim
  | notANumber => exact hf.elim
  | zero s => simp [UnpackedFloat.pack, packedZero]
  | finite s m e hm =>
    have he : e ≤ k := hf
    have hbiased : (e + Format.binary64.exponentBias + (52 : Nat)).toNat ≤ (k + 1075).toNat := by
      change (e + (1023 : Nat) + (52 : Nat)).toNat ≤ _
      omega
    rw [UnpackedFloat.pack]
    split_ifs with hlarge
    · change 2048 ≤ (e + Format.binary64.exponentBias + (52 : Nat)).toNat + 1 at hlarge
      omega
    · rw [unpackExponent_packComponents, BitVec.toNat_ofNat]
      exact Nat.le_trans (Nat.mod_le _ _) hbiased
    · simp

/-- What is packed is a number if it is not infinite. -/
theorem stored_pack_of_not_isInf {k : Int} {f : UnpackedFloat} (hf : Within k f)
    (hinf : (UnpackedFloat.unpack Format.binary64 (UnpackedFloat.pack Format.binary64 f)).isInf =
      false) :
    Stored 971 (UnpackedFloat.unpack Format.binary64 (UnpackedFloat.pack Format.binary64 f)) := by
  cases f with
  | infinity s => exact hf.elim
  | notANumber => exact hf.elim
  | zero s => exact stored_pack (k := 971) trivial (by decide) (by decide)
  | finite s m e hm =>
    by_cases he : e ≤ 971
    · exact stored_pack (k := 971) he (by decide) (by decide)
    · have hpack : UnpackedFloat.pack Format.binary64 (.finite s m e hm) =
          packedInfinity Format.binary64 s := by
        rw [UnpackedFloat.pack]
        refine if_pos ?_
        change 2048 ≤ (e + (1023 : Nat) + (52 : Nat)).toNat + 1
        omega
      rw [hpack] at hinf
      simp [UnpackedFloat.unpack, packedInfinity, UnpackedFloat.isInf] at hinf

/-! ## Doubles -/

theorem stored_of_isFinite {x : Float} (h : x.isFinite = true) : Stored 971 x.toModel.unpack := by
  have hbound : (@unpackExponent Format.binary64 x.toModel.toBits.toBitVec).toNat < 2048 :=
    BitVec.isLt _
  change (UnpackedFloat.unpack Format.binary64 x.toModel.toBits.toBitVec).isFinite = true at h
  by_cases hlast : @unpackExponent Format.binary64 x.toModel.toBits.toBitVec = -1#11
  · rw [UnpackedFloat.unpack, if_pos hlast] at h
    split at h <;> cases h
  · have hne : (@unpackExponent Format.binary64 x.toModel.toBits.toBitVec).toNat ≠ 2047 :=
      fun heq => hlast (BitVec.eq_of_toNat_eq heq)
    exact (stored_unpack hlast).mono (by omega)

theorem stored_toFloat (w : UInt64) : Stored 12 w.toFloat.toModel.unpack :=
  stored_pack (within_ofUInt64 w) (by decide) (by decide)

theorem isFinite_neg {x : Float} (h : x.isFinite = true) : (-x).isFinite = true := by
  have hx := stored_of_isFinite h
  have hneg : Within 971 x.toModel.unpack.neg := by
    cases hunpack : x.toModel.unpack with
    | zero s => trivial
    | finite s m e hm =>
      rw [hunpack] at hx
      exact hx.2
    | infinity s => rw [hunpack] at hx; exact hx.elim
    | notANumber => rw [hunpack] at hx; exact hx.elim
  exact (stored_pack hneg (by decide) (by decide)).isFinite

theorem isFinite_mul {x y : Float} {a b : Int} (hx : Stored a x.toModel.unpack)
    (hy : Stored b y.toModel.unpack) (hinf : (x * y).isInf = false) : (x * y).isFinite = true :=
  (stored_pack_of_not_isInf (within_mul hx hy) hinf).isFinite

/-- The powers of ten of the table are numbers from one on. -/
theorem fromOne_power {k : Nat} (hk : k ≤ 308) :
    FromOne (Float.ofScientific 1 false k).toModel.unpack := by
  have hall : ∀ k : Fin 309, FromOne (Float.ofScientific 1 false k).toModel.unpack := by
    decide +kernel
  exact hall ⟨k, by omega⟩

theorem stored_div_power {a : Int} {x : Float} (hx : Stored a x.toModel.unpack) {k : Nat}
    (hk : k ≤ 308) (hlow : -1075 ≤ a) (hhigh : a ≤ 970) :
    Stored (a + 1) (x / Float.ofScientific 1 false k).toModel.unpack :=
  stored_pack ((within_div hx (fromOne_power hk)).mono (by omega)) (by omega) (by omega)

/-! ## Literals -/

theorem isFinite_scaleDown {fuel : Nat} {x : Float} {places : Nat} {a : Int}
    (hx : Stored a x.toModel.unpack) (hlow : -1075 ≤ a) (hhigh : a + fuel ≤ 971) :
    (scaleDown fuel x places).isFinite = true := by
  induction fuel generalizing x places a with
  | zero => exact hx.isFinite
  | succ fuel ih =>
    rw [scaleDown]
    split
    · next hplaces =>
      exact (stored_div_power hx hplaces hlow (by omega)).isFinite
    split
    · exact hx.isFinite
    · exact ih (stored_div_power hx (Nat.le_refl 308) hlow (by omega)) (by omega) (by omega)

theorem isFinite_of_scaleWord? {word : Nat} {exponent : Int} {x : Float}
    (h : scaleWord? word exponent = some x) : x.isFinite = true := by
  have hword := stored_toFloat word.toUInt64
  unfold scaleWord? at h
  simp only at h
  split at h
  · next hup =>
    split at h
    · next hexponent =>
      split at h
      · cases h
      · next hinf =>
        obtain rfl := Option.some.inj h
        have hpower := (fromOne_power (k := exponent.toNat) (by omega)).isFinite
        exact isFinite_mul hword (stored_of_isFinite hpower) (Bool.eq_false_iff.2 hinf)
    split at h
    · obtain rfl := Option.some.inj h
      exact hword.isFinite
    · cases h
  · obtain rfl := Option.some.inj h
    exact isFinite_scaleDown hword (by decide) (by decide)

/-- What is read is a finite double. -/
theorem Literal.isFinite_of_scaled? {l : Literal} {x : Float} (h : l.scaled? = some x) :
    x.isFinite = true := by
  unfold Literal.scaled? at h
  simp only at h
  obtain ⟨y, hy, rfl⟩ := Option.map_eq_some_iff.1 h
  have hfinite : y.isFinite = true := by
    split at hy
    · split at hy
      · cases hy
      · obtain rfl := Option.some.inj hy
        decide +kernel
    · exact isFinite_of_scaleWord? hy
  split
  · exact isFinite_neg hfinite
  · exact hfinite

/-! ## Words -/

theorem le_valueFrom (start : Nat) (cs : List Char) : start ≤ valueFrom start cs := by
  induction cs generalizing start with
  | nil => exact Nat.le_refl start
  | cons c cs ih =>
    have := ih (10 * start + digitValue c)
    change start ≤ valueFrom (10 * start + digitValue c) cs
    omega

/-- Digits of a number that fits a word are all kept. -/
theorem wholeDigits_eq {kept : Nat} {cs : List Char} (h : valueFrom kept cs ≤ maxWord) :
    wholeDigits kept 0 cs = (valueFrom kept cs, 0) := by
  induction cs generalizing kept with
  | nil => rfl
  | cons c cs ih =>
    have hle := le_valueFrom (10 * kept + digitValue c) cs
    change valueFrom (10 * kept + digitValue c) cs ≤ maxWord at h
    rw [wholeDigits, if_neg (by omega), ih h]
    rfl

/-- Every word is read. -/
theorem Literal.scaled?_ofNat {n : Nat} (h : n ≤ maxWord) : (ofNat n).scaled?.isSome = true := by
  have hwhole : wholeDigits 0 0 (digits n) = (n, 0) := by
    have hvalue : valueFrom 0 (digits n) = n := value_digits n
    rw [wholeDigits_eq (by rwa [hvalue]), hvalue]
  have hproduct : Stored 66 (n.toUInt64.toFloat * Float.ofScientific 1 false 0).toModel.unpack :=
    stored_pack (within_mul (stored_toFloat _) (b := 0) (by decide +kernel)) (by decide) (by decide)
  have hinf : (n.toUInt64.toFloat * Float.ofScientific 1 false 0).isInf = false := by
    change (n.toUInt64.toFloat * Float.ofScientific 1 false 0).toModel.unpack.isInf = false
    cases hunpack : (n.toUInt64.toFloat * Float.ofScientific 1 false 0).toModel.unpack with
    | infinity s => rw [hunpack] at hproduct; exact hproduct.elim
    | _ => rfl
  have hscaled : scaleWord? n 0 = some (n.toUInt64.toFloat * Float.ofScientific 1 false 0) := by
    simp [scaleWord?, hinf]
  simp [scaled?, ofNat, hwhole, fractionDigits, hscaled]

end Decimal
end ClusterReads
