import StructuralGrading.Proofs.Decimal.Value

/-! # Rounding

What arithmetic computes is rounded to a double.  Below one, neighbouring doubles are at most
`2 ^ (-53)` apart, so rounding adds at most half of that.

* `Decimal.partsValue_unpack_pack`: packing never makes a number greater;
* `Decimal.partsValue_round`: how much rounding can add below one;
* `Decimal.value_one_sub`: what is left of one when a fraction is taken away. -/

namespace StructuralGrading.Decimal

open Float.Model Float.Model.UnpackedFloat

/-! ### Packing -/

theorem partsValue_unpack_packComponents (e : BitVec 11) (m : BitVec 52) :
    partsValue (UnpackedFloat.unpack .binary64 (packComponents .binary64 .positive e m)) =
      if e = -1#11 then 0
      else if e = 0#11 then (m.toNat : ℚ) * 2 ^ (-1074 : ℤ)
      else ((2 ^ 52 + m.toNat : ℕ) : ℚ) * 2 ^ ((e.toNat : ℤ) - 1075) := by
  have hbias : (Format.binary64.exponentBias : ℤ) + (52 : ℕ) = 1075 := by decide
  have hsign : Sign.ofBitVec Sign.positive.toBitVec = .positive := rfl
  rw [UnpackedFloat.unpack]
  simp only [unpackExponent_packComponents, unpackMantissa_packComponents,
    unpackSign_packComponents, hbias, hsign]
  split
  · split <;> rfl
  · split
    · rename_i h0
      split
      · rename_i hm
        rw [hm]
        simp [partsValue]
      · rw [h0]
        rfl
    · rw [← toNat_implicit]
      rfl

theorem partsValue_unpack_pack {m : ℕ} {e : ℤ} (hm : 0 < m) (he : -1074 ≤ e) :
    0 ≤ partsValue (Float.Model.pack (.finite .positive m e hm)).unpack ∧
      partsValue (Float.Model.pack (.finite .positive m e hm)).unpack ≤ m * 2 ^ e := by
  have hback : (Float.Model.pack (.finite .positive m e hm)).unpack =
      UnpackedFloat.unpack .binary64
        (UnpackedFloat.pack .binary64 (.finite .positive m e hm)) := rfl
  have hbias : e + (Format.binary64.exponentBias : ℤ) + (52 : ℕ) = e + 1075 := by
    have : (Format.binary64.exponentBias : ℤ) = 1023 := by decide
    omega
  have hpos : (0 : ℚ) ≤ m * 2 ^ e := by positivity
  rw [hback, UnpackedFloat.pack]
  simp only [hbias]
  split
  · rw [packedInfinity, partsValue_unpack_packComponents, if_pos rfl]
    exact ⟨le_rfl, hpos⟩
  · rename_i hfits
    split
    · rename_i hlog
      have hE : (BitVec.ofNat 11 (e + 1075).toNat).toNat = (e + 1075).toNat := by
        rw [BitVec.toNat_ofNat, Nat.mod_eq_of_lt (by omega)]
      have hones : BitVec.ofNat 11 (e + 1075).toNat ≠ -1#11 := fun h => by
        have := congrArg BitVec.toNat h
        rw [hE] at this
        have h2047 : (-1#11).toNat = 2047 := rfl
        omega
      have hzero : BitVec.ofNat 11 (e + 1075).toNat ≠ 0#11 := fun h => by
        have := congrArg BitVec.toNat h
        rw [hE] at this
        have h0 : (0#11).toNat = 0 := rfl
        omega
      rw [partsValue_unpack_packComponents, if_neg hones, if_neg hzero, hE]
      have hm52 : m.log2 = 52 := by
        have : Format.binary64.mantissaBits = 53 := rfl
        omega
      obtain ⟨hlow, hhigh⟩ := (Nat.log2_eq_iff hm.ne').mp hm52
      have hwhole : 2 ^ 52 + (BitVec.ofNat 52 m).toNat = m := by
        rw [BitVec.toNat_ofNat]
        omega
      have hexp : ((e + 1075).toNat : ℤ) - 1075 = e := by omega
      rw [hwhole, hexp]
      exact ⟨hpos, le_rfl⟩
    · rw [partsValue_unpack_packComponents, if_neg (by decide), if_pos rfl]
      have hmod : (((BitVec.ofNat 52 m).toNat : ℕ) : ℚ) ≤ m := by
        rw [BitVec.toNat_ofNat]
        exact_mod_cast Nat.mod_le m _
      have hpow : (2 : ℚ) ^ (-1074 : ℤ) ≤ 2 ^ e := zpow_le_zpow_right₀ one_le_two he
      exact ⟨by positivity, by gcongr⟩

/-! ### Rounding -/

theorem mantissa_shiftRight (em : ExtendedMantissa) (k : ℕ) :
    (em >>> k).mantissa = em.mantissa / 2 ^ k := by
  induction k with
  | zero => exact (Nat.div_one _).symm
  | succ k ih =>
      have hstep : (em >>> (k + 1)).mantissa = (em >>> k).mantissa / 2 := rfl
      rw [hstep, ih, Nat.div_div_eq_div_mul, Nat.pow_succ]

/-- The bit that rounding looks at first is the highest of those that are shifted out. -/
theorem roundBit_shiftRight (em : ExtendedMantissa) (k : ℕ) :
    (em >>> (k + 1)).roundBit = (em.mantissa / 2 ^ k % 2 != 0) := by
  have hstep : (em >>> (k + 1)).roundBit = ((em >>> k).mantissa % 2 != 0) := rfl
  rw [hstep, mantissa_shiftRight]

theorem roundedMantissa_le (em : ExtendedMantissa) :
    em.roundedMantissa ≤ em.mantissa + em.roundBit.toNat := by
  rcases em with ⟨m, r, s⟩
  cases r <;> cases s <;>
    simp only [ExtendedMantissa.roundedMantissa, ExtendedMantissa.accuracy,
      Accuracy.roundToNearestEven, Bool.toNat_true, Bool.toNat_false] <;> omega

/-- Rounding a whole number to a multiple of `2 ^ k` adds at most half of that. -/
theorem two_mul_roundedMantissa_le (m k : ℕ) :
    2 * ((ExtendedMantissa.mk m false false >>> k).roundedMantissa * 2 ^ k) ≤
      2 * m + if k = 0 then 0 else 2 ^ k := by
  have hle := roundedMantissa_le (ExtendedMantissa.mk m false false >>> k)
  cases k with
  | zero =>
      have hsame : (ExtendedMantissa.mk m false false >>> 0) = ⟨m, false, false⟩ := rfl
      rw [hsame]
      simp only [ExtendedMantissa.roundedMantissa, ExtendedMantissa.accuracy,
        Accuracy.roundToNearestEven]
      omega
  | succ k =>
      rw [mantissa_shiftRight, roundBit_shiftRight, Nat.pow_succ, ← Nat.div_div_eq_div_mul] at hle
      rw [if_neg k.succ_ne_zero]
      generalize hq : m / 2 ^ k = q at hle
      generalize (ExtendedMantissa.mk m false false >>> (k + 1)).roundedMantissa = r at hle
      have hhalf : 2 * r ≤ q + 1 := by
        rcases Nat.mod_two_eq_zero_or_one q with h | h <;> simp [h] at hle <;> omega
      have hqm : q * 2 ^ k ≤ m := hq ▸ Nat.div_mul_le_self m (2 ^ k)
      calc 2 * (r * 2 ^ (k + 1)) = 2 * r * 2 ^ k * 2 := by ring
        _ ≤ (q + 1) * 2 ^ k * 2 := by gcongr
        _ = 2 * (q * 2 ^ k) + 2 ^ (k + 1) := by ring
        _ ≤ 2 * m + 2 ^ (k + 1) := by omega

theorem targetExponent_eq (m : ℕ) (e : ℤ) :
    Format.binary64.targetExponent (totalExponent m e) = max (m.log2 + e - 52) (-1074) := by
  have hmin : Format.binary64.minExponent = -1074 := by decide
  have hbits : (Format.binary64.mantissaBits : ℤ) = 53 := by decide
  rw [Format.targetExponent, totalExponent, hmin, hbits]
  congr 1
  ring

theorem log2_add_lt_zero {m : ℕ} {e : ℤ} (hm : 0 < m) (h : (m : ℚ) * 2 ^ e < 1) :
    (m.log2 : ℤ) + e < 0 := by
  have hlow : (2 : ℚ) ^ (m.log2 : ℤ) ≤ m := by
    rw [zpow_natCast]
    exact_mod_cast Nat.log2_self_le hm.ne'
  have hlt : (2 : ℚ) ^ ((m.log2 : ℤ) + e) < 2 ^ (0 : ℤ) := by
    rw [zpow_add₀ two_ne_zero, zpow_zero]
    exact lt_of_le_of_lt (by gcongr) h
  exact (zpow_lt_zpow_iff_right₀ one_lt_two).mp hlt

/-- Dropping the last bits of a number before it is packed makes it no greater. -/
theorem partsValue_pack_shift (r l : ℕ) {e : ℤ} (he : -1074 ≤ e) :
    let y := partsValue (Float.Model.pack (
      if h : (ExtendedMantissa.mk r false false >>> l).mantissa = 0 then .zero .positive
      else .finite .positive (ExtendedMantissa.mk r false false >>> l).mantissa (e + l)
        (Nat.pos_of_ne_zero h))).unpack
    0 ≤ y ∧ y ≤ r * 2 ^ e := by
  have hpos : (0 : ℚ) ≤ r * 2 ^ e := by positivity
  have hdrop : (((ExtendedMantissa.mk r false false >>> l).mantissa : ℕ) : ℚ) * 2 ^ (e + l) ≤
      r * 2 ^ e := by
    rw [mantissa_shiftRight, zpow_add₀ two_ne_zero, zpow_natCast, mul_comm ((2 : ℚ) ^ e),
      ← mul_assoc]
    gcongr
    exact_mod_cast Nat.div_mul_le_self r (2 ^ l)
  simp only
  split
  · exact ⟨le_rfl, hpos⟩
  · rename_i hr
    obtain ⟨hnonneg, hle⟩ := partsValue_unpack_pack (Nat.pos_of_ne_zero hr) (e := e + l) (by omega)
    exact ⟨hnonneg, hle.trans hdrop⟩

/-- A number below one is rounded up by at most half of the distance between doubles there. -/
theorem partsValue_roundWithAccuracy {m : ℕ} {e : ℤ} (hm : 0 < m) (h : (m : ℚ) * 2 ^ e < 1) :
    let y := partsValue (Float.Model.pack (roundWithAccuracy .binary64 .positive m e .exact)).unpack
    0 ≤ y ∧ y ≤ m * 2 ^ e + 2 ^ (-54 : ℤ) := by
  have htarget := targetExponent_eq m e
  have hlog := log2_add_lt_zero hm h
  obtain ⟨k, hk⟩ : ∃ k, k = (Format.binary64.targetExponent (totalExponent m e) - e).toNat :=
    ⟨_, rfl⟩
  have hround := two_mul_roundedMantissa_le m k
  obtain ⟨r, hr⟩ : ∃ r, r = (ExtendedMantissa.mk m false false >>> k).roundedMantissa := ⟨_, rfl⟩
  obtain ⟨hnonneg, hle⟩ := partsValue_pack_shift r
    (Format.binary64.targetExponent (totalExponent r (e + k)) - (e + k)).toNat
    (e := e + k) (by omega)
  rw [← hr] at hround
  have hbound : (r : ℚ) * 2 ^ (e + k) ≤ m * 2 ^ e + 2 ^ (-54 : ℤ) := by
    have hsplit : (r : ℚ) * 2 ^ (e + k) = ((r * 2 ^ k : ℕ) : ℚ) * 2 ^ e := by
      rw [zpow_add₀ two_ne_zero, zpow_natCast]
      push_cast
      ring
    rw [hsplit]
    by_cases hk0 : k = 0
    · rw [if_pos hk0] at hround
      have hrm : ((r * 2 ^ k : ℕ) : ℚ) ≤ m := by exact_mod_cast (by omega : r * 2 ^ k ≤ m)
      calc ((r * 2 ^ k : ℕ) : ℚ) * 2 ^ e ≤ m * 2 ^ e := by gcongr
        _ ≤ m * 2 ^ e + 2 ^ (-54 : ℤ) := le_add_of_nonneg_right (by positivity)
    · rw [if_neg hk0] at hround
      have hrm : ((r * 2 ^ k : ℕ) : ℚ) ≤ m + 2 ^ k / 2 := by
        have : (2 : ℚ) * ((r * 2 ^ k : ℕ) : ℚ) ≤ 2 * m + 2 ^ k := by exact_mod_cast hround
        linarith
      have hek : (2 : ℚ) ^ (e + k) ≤ 2 ^ (-53 : ℤ) := zpow_le_zpow_right₀ one_le_two (by omega)
      calc ((r * 2 ^ k : ℕ) : ℚ) * 2 ^ e ≤ (m + 2 ^ k / 2) * 2 ^ e := by gcongr
        _ = m * 2 ^ e + 2 ^ (e + k) / 2 := by rw [zpow_add₀ two_ne_zero, zpow_natCast]; ring
        _ ≤ m * 2 ^ e + 2 ^ (-53 : ℤ) / 2 := by gcongr
        _ = m * 2 ^ e + 2 ^ (-54 : ℤ) := by norm_num
  subst hr hk
  exact ⟨hnonneg, hle.trans hbound⟩

/-- The same for a number whose parts have to be brought to the right exponent first. -/
theorem partsValue_round {m : ℕ} {e : ℤ} (hm : 0 < m) (h : (m : ℚ) * 2 ^ e < 1) :
    let y := partsValue (Float.Model.pack (UnpackedFloat.round .binary64 .positive m e)).unpack
    0 ≤ y ∧ y ≤ m * 2 ^ e + 2 ^ (-54 : ℤ) := by
  obtain ⟨k, hk⟩ : ∃ k, k = (e - Format.binary64.targetExponent (totalExponent m e)).toNat :=
    ⟨_, rfl⟩
  have hsame : ((m <<< k : ℕ) : ℚ) * 2 ^ (e - k) = m * 2 ^ e := by
    rw [Nat.shiftLeft_eq, Nat.cast_mul, Nat.cast_pow, Nat.cast_ofNat, zpow_sub₀ two_ne_zero,
      zpow_natCast]
    field_simp
  have hmk : 0 < m <<< k := by
    rw [Nat.shiftLeft_eq]
    positivity
  have hround := partsValue_roundWithAccuracy hmk (hsame ▸ h)
  rw [hsame] at hround
  subst hk
  exact hround

theorem partsValue_normalize {n : ℕ} {e : ℤ} (h : (n : ℚ) * 2 ^ e < 1) :
    let y := partsValue (Float.Model.pack
      (UnpackedFloat.normalize .binary64 (n : ℤ) e .positive)).unpack
    0 ≤ y ∧ y ≤ n * 2 ^ e + 2 ^ (-54 : ℤ) := by
  rcases Nat.eq_zero_or_pos n with rfl | hpos
  · have hnorm : UnpackedFloat.normalize .binary64 ((0 : ℕ) : ℤ) e .positive =
        .zero .positive := rfl
    have hback : (Float.Model.pack (.zero .positive)).unpack = .zero .positive := rfl
    rw [hnorm, hback, partsValue]
    exact ⟨le_rfl, by positivity⟩
  · have hnorm : UnpackedFloat.normalize .binary64 (n : ℤ) e .positive =
        UnpackedFloat.round .binary64 .positive n e := by
      rw [UnpackedFloat.normalize, Int.compare_eq_gt.mpr (by exact_mod_cast hpos),
        Int.toNat_natCast]
    rw [hnorm]
    exact partsValue_round hpos h

/-- What is left of one when a number between zero and one is taken away, as doubles compute it. -/
theorem value_one_sub {x : Float} (h0 : 0 ≤ x) (h1 : x ≤ 1) :
    0 ≤ value (1 - x) ∧ value (1 - x) ≤ 1 - value x + 2 ^ (-54 : ℤ) := by
  have hmodel : (1 - x).toModel =
      Float.Model.pack
        (UnpackedFloat.sub .binary64 (1 : Float).toModel.unpack x.toModel.unpack) := rfl
  rcases unpack_of_unit h0 h1 with ⟨s, hx⟩ | ⟨m, e, hm, hx, he, hle⟩
  · have hone : value (1 - x) = 1 := by
      rw [value_eq, hmodel, hx, ← value_one, value_eq]
      rfl
    have hzero : value x = 0 := by rw [value_eq, hx, partsValue]
    rw [hone, hzero]
    norm_num
  · have hval : value x = m * 2 ^ e := by
      rw [value_eq, hx, partsValue, Sign.apply, Int.cast_natCast]
    obtain ⟨k, hk⟩ : ∃ k, k = (-52 - e).toNat := ⟨_, rfl⟩
    have hone : ((2 ^ (52 + k) : ℕ) : ℚ) * 2 ^ e = 1 := by
      have hexp : ((52 + k : ℕ) : ℤ) + e = 0 := by omega
      rw [Nat.cast_pow, Nat.cast_ofNat, ← zpow_natCast, ← zpow_add₀ two_ne_zero, hexp, zpow_zero]
    have hm_le : m ≤ 2 ^ (52 + k) := by
      have : (m : ℚ) * 2 ^ e ≤ ((2 ^ (52 + k) : ℕ) : ℚ) * 2 ^ e := hone ▸ hle
      exact_mod_cast le_of_mul_le_mul_right this (by positivity)
    have hsub : UnpackedFloat.sub .binary64 (1 : Float).toModel.unpack x.toModel.unpack =
        UnpackedFloat.normalize .binary64 (2 ^ (52 + k) - m : ℤ) e .positive := by
      rw [unpack_one, hx, UnpackedFloat.sub]
      simp only [UnpackedFloat.decreaseExponent, min_eq_right he, ← hk, Sign.apply, Int.sub_self,
        Nat.shiftLeft_eq, ← Nat.pow_add]
      congr 1
      push_cast
      simp
    have hleft : (((2 ^ (52 + k) - m : ℕ) : ℕ) : ℚ) * 2 ^ e = 1 - m * 2 ^ e := by
      rw [Nat.cast_sub hm_le, sub_mul, hone]
    have hcast : (2 ^ (52 + k) - m : ℤ) = ((2 ^ (52 + k) - m : ℕ) : ℤ) := by
      rw [Nat.cast_sub hm_le]
      push_cast
      rfl
    rw [value_eq, hmodel, hsub, hcast, hval, ← hleft]
    refine partsValue_normalize (hleft ▸ ?_)
    have : (0 : ℚ) < m * 2 ^ e := by positivity
    linarith

end StructuralGrading.Decimal
