import Mathlib.Data.Nat.Digits.Defs
import QueryFilter.Binary64.Basic

/-! Integers that are too large for a float. -/

namespace QueryFilter.Binary64

/-- Between an odd and an even neighbour a half goes to the even one. -/
theorem le_roundQuotient_iff {m d k : Nat} (hd : 0 < d) (hodd : k % 2 = 1) :
    k + 1 ≤ roundQuotient m d ↔ 2 * (d * k) + d ≤ 2 * m := by
  have hm := Nat.div_add_mod m d
  have hr := Nat.mod_lt m hd
  unfold roundQuotient
  dsimp only
  generalize m / d = q at hm ⊢
  generalize m % d = r at hm hr ⊢
  rcases Nat.lt_trichotomy q k with hlt | rfl | hgt
  · have hle := Nat.mul_le_mul_left d (show q + 1 ≤ k by omega)
    rw [Nat.mul_add] at hle
    split <;> omega
  · split <;> omega
  · have hle := Nat.mul_le_mul_left d (show k + 1 ≤ q by omega)
    rw [Nat.mul_add] at hle
    split <;> omega

theorem ofFields_eq_infinity (s : Bool) (fields : Nat) :
    (∃ b, ofFields s fields = .infinity b) ↔ 2047 * fractionCount ≤ fields := by
  unfold ofFields
  split
  · rename_i h
    rw [Nat.div_lt_iff_lt_mul (by decide)] at h
    simp only [reduceCtorEq, exists_false, false_iff]
    omega
  · rename_i h
    rw [Nat.div_lt_iff_lt_mul (by decide)] at h
    simp only [infinity.injEq, exists_eq', true_iff]
    omega

theorem ofQuotient_one {m : Nat} (s : Bool) (hm : m ≠ 0) : ofQuotient s m 1 =
    ofFields s ((m.log2 + 1022) * fractionCount +
      roundQuotient (m <<< (52 - m.log2)) (1 <<< (m.log2 - 52))) := by
  have hlow := Nat.log2_self_le hm
  have hone : Nat.log2 1 = 0 := by decide
  have hneg : (-((m.log2 : Int) - (0 : Nat) - 52)).toNat = 52 - m.log2 := by omega
  have hpos : ((m.log2 : Int) - (0 : Nat) - 52).toNat = m.log2 - 52 := by omega
  have hmax : max ((m.log2 : Int) - (0 : Nat) - 52) (-1074) = (m.log2 : Int) - (0 : Nat) - 52 := by
    omega
  have hscale : ((m.log2 : Int) - (0 : Nat) - 52 + 1074).toNat = m.log2 + 1022 := by omega
  have hkeep : ¬ m <<< (52 - m.log2) < (fractionCount * 1) <<< (m.log2 - 52) := by
    rw [Nat.shiftLeft_eq, Nat.shiftLeft_eq, Nat.not_lt, Nat.mul_one,
      show fractionCount = 2 ^ 52 by rfl, ← Nat.pow_add,
      show 52 + (m.log2 - 52) = m.log2 + (52 - m.log2) by omega, Nat.pow_add]
    exact Nat.mul_le_mul_right _ hlow
  unfold ofQuotient
  rw [if_neg hm]
  simp only [hone, hneg, hpos, hkeep, if_false, hmax, hscale]

theorem scaled_bounds {m : Nat} (hm : m ≠ 0) :
    2 ^ 52 * (1 <<< (m.log2 - 52)) ≤ m <<< (52 - m.log2) ∧
      m <<< (52 - m.log2) < 2 ^ 53 * (1 <<< (m.log2 - 52)) := by
  have hlow := Nat.log2_self_le hm
  have hhigh := @Nat.lt_log2_self m
  rw [Nat.shiftLeft_eq, Nat.shiftLeft_eq, Nat.one_mul, ← Nat.pow_add, ← Nat.pow_add,
    show 52 + (m.log2 - 52) = m.log2 + (52 - m.log2) by omega,
    show 53 + (m.log2 - 52) = m.log2 + 1 + (52 - m.log2) by omega, Nat.pow_add, Nat.pow_add]
  exact ⟨Nat.mul_le_mul_right _ hlow, Nat.mul_lt_mul_of_pos_right hhigh (Nat.two_pow_pos _)⟩

theorem roundQuotient_bounds {m d k j : Nat} (hd : 0 < d) (hlow : k * d ≤ m) (hhigh : m < j * d) :
    k ≤ roundQuotient m d ∧ roundQuotient m d ≤ j := by
  have hk := (Nat.le_div_iff_mul_le hd).mpr hlow
  have hj := (Nat.div_lt_iff_lt_mul hd).mpr hhigh
  unfold roundQuotient
  dsimp only
  split <;> omega

/-- The powers of two around the greatest float, over the half of its last unit. -/
theorem powers : ∃ h : Nat, 0 < h ∧ 2 ^ 970 = h ∧ 2 ^ 971 = 2 ^ 1 * h ∧ 2 ^ 1024 = 2 ^ 54 * h ∧
    (∀ n ≤ 53 + 970, 2 ^ n ≤ 2 ^ 53 * h) ∧ ∀ n ≥ 54 + 970, 2 ^ 54 * h ≤ 2 ^ n := by
  have hpos : ∀ n, 0 < 2 ^ n := Nat.two_pow_pos
  have hmono : ∀ i j k, i ≤ j + k → 2 ^ i ≤ 2 ^ j * 2 ^ k := fun i j k h => by
    rw [← Nat.pow_add]
    exact Nat.pow_le_pow_right (by decide) h
  have hmono' : ∀ i j k, j + k ≤ i → 2 ^ j * 2 ^ k ≤ 2 ^ i := fun i j k h => by
    rw [← Nat.pow_add]
    exact Nat.pow_le_pow_right (by decide) h
  refine ⟨_, hpos 970, rfl, ?_, ?_, fun n hn => hmono n 53 970 hn, fun n hn => hmono' n 54 970 hn⟩
  · rw [← Nat.pow_add]
  · rw [← Nat.pow_add]

/-- Only where the leading bit is the last that fits does rounding decide: the largest odd
significand is passed from its half on. -/
theorem overflow_iff {m : Nat} (hm : m ≠ 0) :
    2047 * fractionCount ≤ (m.log2 + 1022) * fractionCount +
      roundQuotient (m <<< (52 - m.log2)) (1 <<< (m.log2 - 52)) ↔ 2 ^ 1024 ≤ m + 2 ^ 970 := by
  have hlow := Nat.log2_self_le hm
  have hhigh := @Nat.lt_log2_self m
  obtain ⟨hnum, hden⟩ := scaled_bounds hm
  have hone : 0 < 1 <<< (m.log2 - 52) := by
    rw [Nat.shiftLeft_eq, Nat.one_mul]
    exact Nat.two_pow_pos _
  obtain ⟨hround, hround'⟩ := roundQuotient_bounds hone hnum hden
  have hcount : fractionCount = 4503599627370496 := rfl
  obtain ⟨h, hpos, h970, h971, h1024, hbelow, habove⟩ := powers
  rw [h970, h1024, hcount]
  -- Below the last exponent rounding cannot overflow, and above it every integer is too large.
  rcases Nat.lt_trichotomy m.log2 1023 with hlt | heq | hgt
  · have hle := hbelow (m.log2 + 1) (by omega)
    omega
  · have hiff := @le_roundQuotient_iff m (2 * h) (2 ^ 53 - 1) (by omega) (by decide)
    have hnum' : m <<< (52 - m.log2) = m := by
      rw [heq]
      rfl
    have hden' : 1 <<< (m.log2 - 52) = 2 * h := by
      have hsub : m.log2 - 52 = 971 := by omega
      rw [hsub, Nat.shiftLeft_eq]
      omega
    rw [hnum', hden', heq]
    omega
  · have hle := habove m.log2 (by omega)
    omega

/-- An integer is too large for a float from half a unit below the next power of two on. -/
theorem ofInt?_eq_none_iff (n : Int) : ofInt? n = none ↔ 2 ^ 1024 ≤ n.natAbs + 2 ^ 970 := by
  have hinf : ofInt? n = none ↔
      ∃ b, ofQuotient (decide (n < 0)) n.natAbs 1 = .infinity b := by
    unfold ofInt?
    split
    · rename_i b h
      simp [h]
    · rename_i h
      simpa using h
  rw [hinf]
  by_cases hm : n.natAbs = 0
  · obtain ⟨h, hpos, h970, _, h1024, _⟩ := powers
    rw [hm, h970, h1024]
    constructor
    · rintro ⟨b, hb⟩
      simp [ofQuotient, zero] at hb
    · intro hle
      omega
  · rw [ofQuotient_one _ hm, ofFields_eq_infinity, overflow_iff hm]

end QueryFilter.Binary64
