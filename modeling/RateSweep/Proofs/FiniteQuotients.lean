import Mathlib

namespace RateSweep

open Float.Model Float.Model.UnpackedFloat

namespace Binary64

theorem targetExponent_eq (t : Int) : Format.binary64.targetExponent t = max (t - 53) (-1074) := rfl

theorem exponentBias_eq : (Format.binary64.exponentBias : Int) = 1023 := rfl

theorem log2_lt_iff {m k : Nat} (hk : 0 < k) : m.log2 < k ↔ m < 2 ^ k := by
  rcases Nat.eq_zero_or_pos m with rfl | hm
  · simp [hk]
  · exact Nat.log2_lt hm.ne'

inductive Finite : UnpackedFloat → Prop
  | zero (s : Sign) : Finite (.zero s)
  | finite (s : Sign) {m : Nat} {e : Int} (hm : 0 < m) (hdigits : m < 2 ^ 53) (he : e ≤ 971) :
    Finite (.finite s m e hm)

section Packing

variable {b : BitVec Format.binary64.numBits}

theorem isFinite_unpack_iff : (unpack Format.binary64 b).isFinite = true ↔
    unpackExponent b ≠ -1#_ := by
  unfold UnpackedFloat.unpack
  dsimp only
  split
  · next h => split <;> exact iff_of_false Bool.false_ne_true (not_not_intro h)
  · next h =>
    split
    · split <;> exact iff_of_true rfl h
    · exact iff_of_true rfl h

theorem finite_unpack (h : (unpack Format.binary64 b).isFinite = true) :
    Finite (unpack Format.binary64 b) := by
  have hexponent := isFinite_unpack_iff.1 h
  have hmantissa : (unpackMantissa b).toNat < 2 ^ 52 := (unpackMantissa b).isLt
  have hbiased : (unpackExponent b).toNat < 2047 := by
    have hlt : (unpackExponent b).toNat < 2048 := (unpackExponent b).isLt
    have hne : (unpackExponent b).toNat ≠ 2047 := fun heq =>
      hexponent (BitVec.eq_of_toNat_eq heq)
    omega
  have hbias := exponentBias_eq
  unfold UnpackedFloat.unpack
  dsimp only
  rw [if_neg hexponent]
  split
  · next hzero =>
    have hzero : (unpackExponent b).toNat = 0 := congrArg BitVec.toNat hzero
    split
    · exact .zero _
    · exact .finite _ _ (by omega) (by omega)
  · exact .finite _ _ (1#1 ++ unpackMantissa b).isLt (by omega)

theorem Finite.isFinite_pack {u : UnpackedFloat} (h : Finite u) :
    (unpack Format.binary64 (UnpackedFloat.pack Format.binary64 u)).isFinite = true := by
  rw [isFinite_unpack_iff]
  cases h with
  | zero s =>
    rw [UnpackedFloat.pack, packedZero, unpackExponent_packComponents]
    decide
  | @finite s m e hm hdigits he =>
    have hbias := exponentBias_eq
    have hbiased : (e + Format.binary64.exponentBias + (52 : Nat)).toNat < 2047 := by omega
    rw [UnpackedFloat.pack]
    dsimp only
    rw [if_neg (by omega)]
    split
    · rw [unpackExponent_packComponents]
      intro heq
      have hnat := congrArg BitVec.toNat heq
      rw [BitVec.toNat_ofNat, Nat.mod_eq_of_lt (by omega)] at hnat
      exact absurd hnat hbiased.ne
    · rw [unpackExponent_packComponents]
      decide

end Packing

section Rounding

theorem mantissa_shiftRight (em : ExtendedMantissa) (k : Nat) :
    (em >>> k).mantissa = em.mantissa / 2 ^ k := by
  induction k with
  | zero => simp [HShiftRight.hShiftRight, Nat.repeat]
  | succ k ih =>
    have hstep : (em >>> (k + 1)).mantissa = (em >>> k).mantissa / 2 := rfl
    rw [hstep, ih, Nat.div_div_eq_div_mul, pow_succ]

theorem mantissa_ofMantissaAndAccuracy (m : Nat) (a : Accuracy) :
    (ExtendedMantissa.ofMantissaAndAccuracy m a).mantissa = m := by
  unfold ExtendedMantissa.ofMantissaAndAccuracy
  split <;> rfl

theorem roundedMantissa_le (em : ExtendedMantissa) : em.roundedMantissa ≤ em.mantissa + 1 := by
  unfold ExtendedMantissa.roundedMantissa Accuracy.roundToNearestEven
  split <;> omega

variable {m : Nat} {e : Int}

theorem shiftToTargetExponent_le {top : Int} (htop : -1021 ≤ top)
    (htotal : totalExponent m e ≤ top) (he : e ≤ top - 53) (a : Accuracy) :
    (shiftToTargetExponent Format.binary64 m e a).1.mantissa < 2 ^ 53 ∧
      (shiftToTargetExponent Format.binary64 m e a).2 ≤ top - 53 := by
  rw [shiftToTargetExponent, targetExponent_eq, shiftToExponent]
  set k := (max (totalExponent m e - 53) (-1074) - e).toNat with hk
  refine ⟨?_, by omega⟩
  rw [mantissa_shiftRight, mantissa_ofMantissaAndAccuracy, Nat.div_lt_iff_lt_mul (by positivity),
    ← pow_add, ← log2_lt_iff (by omega)]
  rw [totalExponent] at hk
  omega

theorem finite_roundWithAccuracy (htotal : totalExponent m e ≤ 1023) (he : e ≤ 970) (s : Sign)
    (a : Accuracy) : Finite (roundWithAccuracy Format.binary64 s m e a) := by
  obtain ⟨hmantissa, hexponent⟩ := shiftToTargetExponent_le (by decide) htotal (by omega) a
  rw [roundWithAccuracy]
  set first := shiftToTargetExponent Format.binary64 m e a
  -- rounding may carry into one more digit
  have hrounded : first.1.roundedMantissa.log2 < 54 := by
    rw [log2_lt_iff (by decide)]
    have := roundedMantissa_le first.1
    omega
  have htotal' : totalExponent first.1.roundedMantissa first.2 ≤ 1024 := by
    rw [totalExponent]
    omega
  obtain ⟨hmantissa', hexponent'⟩ :=
    shiftToTargetExponent_le (by decide) htotal' (by omega) Accuracy.exact
  dsimp only
  split
  · exact .zero s
  · exact .finite s _ hmantissa' (by omega)

end Rounding

section Division

theorem log2_div_add_log2_le {m n : Nat} (h : m / n ≠ 0) : (m / n).log2 + n.log2 ≤ m.log2 := by
  have hn : n ≠ 0 := by
    rintro rfl
    simp at h
  have hm : m ≠ 0 := by
    rintro rfl
    simp at h
  rw [Nat.le_log2 hm, pow_add]
  calc 2 ^ (m / n).log2 * 2 ^ n.log2
    _ ≤ m / n * n := Nat.mul_le_mul (Nat.log2_self_le h) (Nat.log2_self_le hn)
    _ ≤ m := Nat.div_mul_le_self m n

theorem log2_shiftLeft_le (m k : Nat) : (m <<< k).log2 ≤ m.log2 + k := by
  rw [← Nat.lt_succ_iff, log2_lt_iff (Nat.succ_pos _), Nat.shiftLeft_eq, Nat.succ_eq_add_one,
    Nat.add_right_comm, pow_add]
  exact Nat.mul_lt_mul_of_pos_right Nat.lt_log2_self (by positivity)

variable {m m₁ m₂ : Nat} {e e₁ e₂ : Int} {a : Accuracy}

theorem divCore_le {top : Int} (htop : -1021 ≤ top)
    (htotal : totalExponent m₁ e₁ - totalExponent m₂ e₂ < top)
    (h : divCore Format.binary64 m₁ e₁ m₂ e₂ = (m, e, a)) :
    totalExponent m e ≤ top ∧ e ≤ top - 53 := by
  rw [divCore, targetExponent_eq] at h
  obtain ⟨rfl, hrest⟩ := Prod.mk.inj h
  obtain ⟨he, -⟩ := Prod.mk.inj hrest
  rw [he]
  refine ⟨?_, by omega⟩
  rw [totalExponent]
  by_cases hzero : m₁ <<< (e₁ - e₂ - e).toNat / m₂ = 0
  · have hlog : Nat.log2 0 = 0 := rfl
    rw [hzero, hlog]
    omega
  · have hquotient := log2_div_add_log2_le hzero
    have hshift := log2_shiftLeft_le m₁ (e₁ - e₂ - e).toNat
    rw [totalExponent, totalExponent] at htotal
    omega

theorem Finite.div {u : UnpackedFloat} (h : Finite u) (s : Sign) (hm : 0 < m)
    (htwo : 2 ≤ totalExponent m e) :
    Finite (UnpackedFloat.div Format.binary64 u (.finite s m e hm)) := by
  cases h with
  | zero s₁ => exact .zero _
  | @finite s₁ m₁ e₁ hm₁ hdigits he₁ =>
    have hlog : m₁.log2 < 53 := (log2_lt_iff (by decide)).2 hdigits
    have htotal : totalExponent m₁ e₁ - totalExponent m e < 1023 := by
      rw [totalExponent]
      omega
    obtain ⟨hquotient, hexponent⟩ := divCore_le (by decide) htotal rfl
    exact finite_roundWithAccuracy hquotient (by omega) _ _

end Division

end Binary64

theorem isFinite_div {x y : Float} (hx : x.isFinite = true) {s : Sign} {m : Nat} {e : Int}
    {hm : 0 < m} (hy : y.toModel.unpack = .finite s m e hm) (htwo : 2 ≤ totalExponent m e) :
    (x / y).isFinite = true := by
  have hquotient := ((Binary64.finite_unpack hx).div s hm htwo).isFinite_pack
  rw [← hy] at hquotient
  exact hquotient

theorem isFinite_div_thousand {x : Float} (hx : x.isFinite = true) :
    (x / 1000.0).isFinite = true := by
  have hthousand : (1000.0 : Float).toModel.unpack =
      .finite .positive 8796093022208000 (-43) (by decide) := rfl
  exact isFinite_div hx hthousand (by decide)

end RateSweep
