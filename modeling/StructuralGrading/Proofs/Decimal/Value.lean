import StructuralGrading.Decimal.Binary
import Mathlib

/-! # The numbers that doubles stand for

A double stands for a rational number, unless it is an infinity or no number at all.

* `Decimal.value`: that rational number, read off the bits;
* `Decimal.value_eq`: arithmetic takes the bits apart in the same way;
* `Decimal.not_le_iff`: two numbers that are not in the one order are in the other;
* `Decimal.value_nonneg`, `Decimal.value_le_one`: the order of doubles is that of their values,
  as far as the range of a fraction needs it. -/

namespace StructuralGrading.Decimal

open Float.Model Float.Model.UnpackedFloat

/-! ### Values -/

/-- The rational number with the parts of a double; zero for what is no rational number. -/
def Binary.value : Binary → ℚ
  | finite negative mantissa exponent => (if negative then -1 else 1) * mantissa * 2 ^ exponent
  | _ => 0

/-- The rational number that a double stands for. -/
def value (x : Float) : ℚ := (Binary.ofFloat x).value

/-- The rational number of the parts on which arithmetic works. -/
def partsValue : UnpackedFloat → ℚ
  | .finite sign mantissa exponent _ => (sign.apply mantissa : ℤ) * 2 ^ exponent
  | .zero _ | .infinity _ | .notANumber => 0

theorem toNat_unpackMantissa (b : BitVec 64) :
    (@unpackMantissa .binary64 b).toNat = b.toNat % 2 ^ 52 := by
  simp [unpackMantissa]

theorem toNat_unpackExponent (b : BitVec 64) :
    (@unpackExponent .binary64 b).toNat = b.toNat / 2 ^ 52 % 2 ^ 11 := by
  simp [unpackExponent, Nat.shiftRight_eq_div_pow]

theorem unpackSign_eq_zero_iff (b : BitVec 64) :
    @unpackSign .binary64 b = 0#1 ↔ b.toNat.testBit 63 = false := by
  have h : (@unpackSign .binary64 b).toNat = b.toNat / 2 ^ 63 % 2 := by
    simp [unpackSign, Nat.shiftRight_eq_div_pow]
  rw [← BitVec.toNat_inj, h, Nat.testBit_eq_decide_div_mod_eq]
  simp

theorem apply_unpackSign (b : BitVec 64) (n : ℕ) :
    (((Sign.ofBitVec (@unpackSign .binary64 b)).apply n : ℤ) : ℚ) =
      (if b.toNat.testBit 63 then -1 else 1) * n := by
  by_cases h : b.toNat.testBit 63 = true
  · have hne : @unpackSign .binary64 b ≠ 0#1 := by
      rw [Ne, unpackSign_eq_zero_iff, h]
      decide
    rw [Sign.ofBitVec, if_neg hne, if_pos h, Sign.apply, Int.cast_neg, Int.cast_natCast,
      neg_one_mul]
  · have heq : @unpackSign .binary64 b = 0#1 :=
      (unpackSign_eq_zero_iff b).mpr (by simpa using h)
    rw [Sign.ofBitVec, if_pos heq, if_neg h, Sign.apply, Int.cast_natCast, one_mul]

theorem toNat_implicit (m : BitVec 52) : (1#1 ++ m).toNat = 2 ^ 52 + m.toNat := by
  rw [BitVec.toNat_append, ← Nat.shiftLeft_add_eq_or_of_lt m.isLt]
  rfl

theorem value_eq (x : Float) : value x = partsValue x.toModel.unpack := by
  have hbits : x.toBits.toNat = x.toModel.toBits.toBitVec.toNat := rfl
  generalize hb : x.toModel.toBits.toBitVec = b at hbits
  have hmodel : x.toModel.unpack = UnpackedFloat.unpack .binary64 b := by rw [← hb]; rfl
  rw [value, Binary.ofFloat, hbits, hmodel, Binary.ofBits, UnpackedFloat.unpack]
  simp only [Nat.pow_eq, ← toNat_unpackMantissa, ← toNat_unpackExponent]
  have hzero : @unpackExponent .binary64 b = 0#11 ↔
      (@unpackExponent .binary64 b).toNat = 0 := BitVec.toNat_inj.symm
  have hones : @unpackExponent .binary64 b = -1#11 ↔
      (@unpackExponent .binary64 b).toNat = 2047 := BitVec.toNat_inj.symm
  have hwhole : @unpackMantissa .binary64 b = 0#52 ↔
      (@unpackMantissa .binary64 b).toNat = 0 := BitVec.toNat_inj.symm
  have hbias : (Format.binary64.exponentBias : ℤ) + (52 : ℕ) = 1075 := by decide
  by_cases h1 : @unpackExponent .binary64 b = -1#11
  · rw [if_pos (hones.mp h1), if_pos h1]
    split <;> split <;> rfl
  · rw [if_neg (mt hones.mpr h1), if_neg h1]
    by_cases h0 : @unpackExponent .binary64 b = 0#11
    · rw [if_pos (hzero.mp h0), if_pos h0]
      by_cases hm : @unpackMantissa .binary64 b = 0#52
      · rw [dif_pos hm, hwhole.mp hm, Binary.value, Nat.cast_zero, mul_zero, zero_mul]
        rfl
      · rw [dif_neg hm, Binary.value, partsValue, apply_unpackSign, hzero.mp h0, hbias]
        rfl
    · rw [if_neg (mt hzero.mpr h0), if_neg h0, Binary.value, partsValue, apply_unpackSign,
        toNat_implicit, hbias]

/-! ### Order -/

theorem le_iff (x y : Float) : x ≤ y ↔ x.toModel.unpack.le y.toModel.unpack = true := by
  show decide _ = true ↔ _
  rw [decide_eq_true_iff]
  rfl

theorem lt_iff (x y : Float) : x < y ↔ x.toModel.unpack.lt y.toModel.unpack = true := by
  show decide _ = true ↔ _
  rw [decide_eq_true_iff]
  rfl

theorem compare_swap (a b : UnpackedFloat) :
    b.compare a = (a.compare b).map Ordering.swap := by
  have hparts : ∀ (m n : ℕ) (d e : ℤ),
      (compare e d).then (compare n m) = ((compare d e).then (compare m n)).swap := by
    intro m n d e
    rw [Ordering.swap_then, ← Std.OrientedCmp.eq_swap, ← Std.OrientedCmp.eq_swap]
  cases a with
  | notANumber => cases b <;> rfl
  | infinity s => cases s <;> rcases b with ⟨_ | _⟩ | _ | _ | _ <;> rfl
  | zero s => rcases b with ⟨_ | _⟩ | _ | _ | ⟨_ | _⟩ <;> rfl
  | finite s m d hm =>
      cases b with
      | finite t n e hn => cases s <;> cases t <;> simp [UnpackedFloat.compare, hparts m n d e]
      | infinity t => cases s <;> cases t <;> rfl
      | zero t => cases s <;> rfl
      | notANumber => cases s <;> rfl

theorem compare_eq_none_iff (a b : UnpackedFloat) :
    a.compare b = none ↔ a.isNaN = true ∨ b.isNaN = true := by
  rcases a with ⟨_ | _⟩ | _ | _ | ⟨_ | _, m, d, hm⟩ <;>
    rcases b with ⟨_ | _⟩ | _ | _ | ⟨_ | _, n, e, hn⟩ <;>
    simp [UnpackedFloat.compare, UnpackedFloat.isNaN]

/-- Only a double that is no number, or one that comes before, does not come after another one. -/
theorem not_le_iff {x y : Float} : ¬ x ≤ y ↔ x.isNaN = true ∨ y.isNaN = true ∨ y < x := by
  have hnone : x.isNaN = true ∨ y.isNaN = true ↔
      x.toModel.unpack.compare y.toModel.unpack = none := (compare_eq_none_iff _ _).symm
  rw [le_iff, lt_iff, ← or_assoc, hnone, UnpackedFloat.le, UnpackedFloat.lt,
    compare_swap x.toModel.unpack y.toModel.unpack]
  cases x.toModel.unpack.compare y.toModel.unpack with
  | none => simp
  | some o => cases o <;> simp

theorem unpack_zero : (0 : Float).toModel.unpack = .zero .positive := rfl

theorem unpack_one :
    (1 : Float).toModel.unpack = .finite .positive (2 ^ 52) (-52) (by decide) := rfl

theorem unpack_of_nonneg {x : Float} (h : 0 ≤ x) :
    (∃ s, x.toModel.unpack = .zero s) ∨ x.toModel.unpack = .infinity .positive ∨
      ∃ m e hm, x.toModel.unpack = .finite .positive m e hm := by
  rw [le_iff, unpack_zero] at h
  cases hx : x.toModel.unpack with
  | notANumber => rw [hx] at h; cases h
  | infinity s => cases s <;> simp_all [UnpackedFloat.le, UnpackedFloat.compare]
  | zero s => exact .inl ⟨s, rfl⟩
  | finite s m e hm => cases s <;> simp_all [UnpackedFloat.le, UnpackedFloat.compare]

theorem unpack_bounds {x : Float} {s : Sign} {m : ℕ} {e : ℤ} {hm : 0 < m}
    (h : x.toModel.unpack = .finite s m e hm) : m < 2 ^ 53 ∧ -1074 ≤ e := by
  have hbias : (Format.binary64.exponentBias : ℤ) + (52 : ℕ) = 1075 := by decide
  have hlt : (@unpackMantissa .binary64 x.toModel.toBits.toBitVec).toNat < 2 ^ 52 :=
    (@unpackMantissa .binary64 x.toModel.toBits.toBitVec).isLt
  rw [Float.Model.unpack, UnpackedFloat.unpack] at h
  simp only [hbias] at h
  split at h
  · split at h <;> cases h
  · split at h
    · split at h
      · cases h
      · cases h
        constructor <;> omega
    · rename_i hne
      have hpos : (@unpackExponent .binary64 x.toModel.toBits.toBitVec).toNat ≠ 0 :=
        fun h0 => hne (BitVec.toNat_inj.mp h0)
      have himplicit := toNat_implicit (@unpackMantissa .binary64 x.toModel.toBits.toBitVec)
      cases h
      constructor
      · exact himplicit ▸ (by omega)
      · omega

theorem value_nonneg {x : Float} (h : 0 ≤ x) : 0 ≤ value x := by
  rw [value_eq]
  rcases unpack_of_nonneg h with ⟨s, hx⟩ | hx | ⟨m, e, hm, hx⟩
  · rw [hx, partsValue]
  · rw [hx, partsValue]
  · rw [hx, partsValue, Sign.apply, Int.cast_natCast]
    positivity

theorem unpack_of_unit {x : Float} (h0 : 0 ≤ x) (h1 : x ≤ 1) :
    (∃ s, x.toModel.unpack = .zero s) ∨
      ∃ m e hm, x.toModel.unpack = .finite .positive m e hm ∧ e ≤ -52 ∧ (m : ℚ) * 2 ^ e ≤ 1 := by
  rw [le_iff, unpack_one] at h1
  rcases unpack_of_nonneg h0 with hx | hx | ⟨m, e, hm, hx⟩
  · exact .inl hx
  · rw [hx] at h1
    cases h1
  · have hm53 := (unpack_bounds hx).1
    rw [hx, UnpackedFloat.le, UnpackedFloat.compare, Option.any_some,
      Ordering.isLE_then_iff_and, Int.isLE_compare, Int.compare_eq_lt, Nat.isLE_compare] at h1
    refine .inr ⟨m, e, hm, hx, h1.1, ?_⟩
    rcases h1 with ⟨hle, hlt | hle'⟩
    · have hpow : (2 : ℚ) ^ e ≤ 2 ^ (-53 : ℤ) := zpow_le_zpow_right₀ one_le_two (by omega)
      have hmant : (m : ℚ) ≤ 2 ^ 53 := by exact_mod_cast hm53.le
      calc (m : ℚ) * 2 ^ e ≤ 2 ^ 53 * 2 ^ (-53 : ℤ) := by gcongr
        _ = 1 := by norm_num
    · have hpow : (2 : ℚ) ^ e ≤ 2 ^ (-52 : ℤ) := zpow_le_zpow_right₀ one_le_two hle
      have hmant : (m : ℚ) ≤ 2 ^ 52 := by exact_mod_cast hle'
      calc (m : ℚ) * 2 ^ e ≤ 2 ^ 52 * 2 ^ (-52 : ℤ) := by gcongr
        _ = 1 := by norm_num

theorem value_le_one {x : Float} (h0 : 0 ≤ x) (h1 : x ≤ 1) : value x ≤ 1 := by
  rw [value_eq]
  rcases unpack_of_unit h0 h1 with ⟨s, hx⟩ | ⟨m, e, hm, hx, -, hle⟩
  · rw [hx, partsValue]
    exact zero_le_one
  · rw [hx, partsValue, Sign.apply, Int.cast_natCast]
    exact hle

theorem value_one : value 1 = 1 := by
  rw [value_eq, unpack_one, partsValue]
  norm_num [Sign.apply]

end StructuralGrading.Decimal
