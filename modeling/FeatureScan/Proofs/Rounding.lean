import FeatureScan.Binary64
import Mathlib.Algebra.Order.AbsoluteValue.Basic
import Mathlib.Algebra.Order.Field.Power
import Mathlib.Data.Rat.Cast.Order
import Mathlib.Tactic.FieldSimp
import Mathlib.Tactic.Linarith
import Mathlib.Tactic.NormNum
import Mathlib.Tactic.Positivity
import Mathlib.Tactic.Ring

/-!
How far a rounded operation is from the exact one. The significand of a quotient that is neither
very small nor very large has 53 bits, so half a unit of its last place is less than the quotient
by a factor of `2 ^ 53`.
-/

namespace FeatureScan
namespace Binary64

/-- The exact value, without its sign. -/
def magnitude (x : Binary64) : ℚ := x.ratio.1 / x.ratio.2

theorem natCast_pow_natAbs_of_neg {e : ℤ} (h : e < 0) :
    ((Nat.pow 2 e.natAbs : ℕ) : ℚ) = 2 ^ (-e) := by
  have abs : ((e.natAbs : ℕ) : ℤ) = -e := by omega
  rw [← abs, zpow_natCast]
  exact Nat.cast_pow 2 e.natAbs

theorem natCast_pow_natAbs_of_nonneg {e : ℤ} (h : ¬ e < 0) :
    ((Nat.pow 2 e.natAbs : ℕ) : ℚ) = 2 ^ e := by
  have abs : ((e.natAbs : ℕ) : ℤ) = e := by omega
  conv_rhs => rw [← abs, zpow_natCast]
  exact Nat.cast_pow 2 e.natAbs

theorem magnitude_eq (x : Binary64) : x.magnitude = x.significand * 2 ^ x.exponent := by
  unfold magnitude ratio
  split
  next below =>
    rw [natCast_pow_natAbs_of_neg below, zpow_neg, div_inv_eq_mul]
  next above =>
    rw [Nat.cast_mul, natCast_pow_natAbs_of_nonneg above, Nat.cast_one, div_one]

theorem ratio_pos (x : Binary64) : 0 < x.ratio.2 := by
  unfold ratio
  split
  · exact Nat.pow_pos (by decide)
  · exact Nat.one_pos

theorem scaled_pos (num : ℕ) {den : ℕ} (den_pos : 0 < den) (e : ℤ) : 0 < (scaled num den e).2 := by
  unfold scaled
  split
  · exact den_pos
  · exact Nat.mul_pos den_pos (Nat.pow_pos (by decide))

theorem scaled_eq (num den : ℕ) (e : ℤ) :
    ((scaled num den e).1 : ℚ) / (scaled num den e).2 = num / den * 2 ^ (-e) := by
  unfold scaled
  split
  next below =>
    rw [Nat.cast_mul, natCast_pow_natAbs_of_neg below]
    ring
  next above =>
    rw [Nat.cast_mul, natCast_pow_natAbs_of_nonneg above, zpow_neg]
    field_simp

theorem divHalfEven_bounds (num : ℕ) {den : ℕ} (den_pos : 0 < den) :
    2 * num ≤ 2 * (den * divHalfEven num den) + den ∧
      2 * (den * divHalfEven num den) ≤ 2 * num + den := by
  have split := Nat.div_add_mod num den
  have rest := Nat.mod_lt num den_pos
  have next : den * (num / den + 1) = den * (num / den) + den := Nat.mul_succ _ _
  unfold divHalfEven
  dsimp only
  split_ifs <;> omega

theorem abs_divHalfEven_sub_le (num : ℕ) {den : ℕ} (den_pos : 0 < den) :
    |(divHalfEven num den : ℚ) - num / den| ≤ 1 / 2 := by
  obtain ⟨low, high⟩ := divHalfEven_bounds num den_pos
  have positive : (0 : ℚ) < den := Nat.cast_pos.mpr den_pos
  have low : 2 * (num : ℚ) ≤ 2 * (den * divHalfEven num den) + den := by exact_mod_cast low
  have high : 2 * ((den : ℚ) * divHalfEven num den) ≤ 2 * num + den := by exact_mod_cast high
  have whole : (divHalfEven num den : ℚ) - num / den =
      (den * divHalfEven num den - num) / den := by
    field_simp
  rw [whole, abs_le, le_div_iff₀ positive, div_le_iff₀ positive]
  constructor <;> linarith

/-- At the exponent `e` the significand of `x` has 53 bits. -/
def FullAt (x : ℚ) (e : ℤ) : Prop := (2 : ℚ) ^ (52 + e) ≤ x ∧ x < 2 ^ (53 + e)

theorem div_log2_bounds {num den : ℕ} (num_pos : 0 < num) (den_pos : 0 < den) :
    (2 : ℚ) ^ ((num.log2 : ℤ) - den.log2 - 1) ≤ num / den ∧
      (num : ℚ) / den < 2 ^ ((num.log2 : ℤ) - den.log2 + 1) := by
  have num_low : (2 : ℚ) ^ (num.log2 : ℤ) ≤ num := by
    rw [zpow_natCast]
    exact_mod_cast Nat.log2_self_le num_pos.ne'
  have num_high : (num : ℚ) < 2 ^ ((num.log2 : ℤ) + 1) := by
    exact_mod_cast (Nat.lt_log2_self : num < 2 ^ (num.log2 + 1))
  have den_low : (2 : ℚ) ^ (den.log2 : ℤ) ≤ den := by
    rw [zpow_natCast]
    exact_mod_cast Nat.log2_self_le den_pos.ne'
  have den_high : (den : ℚ) < 2 ^ ((den.log2 : ℤ) + 1) := by
    exact_mod_cast (Nat.lt_log2_self : den < 2 ^ (den.log2 + 1))
  have positive : (0 : ℚ) < den := Nat.cast_pos.mpr den_pos
  have two : (2 : ℚ) ≠ 0 := two_ne_zero
  constructor
  · have split : (2 : ℚ) ^ ((num.log2 : ℤ) - den.log2 - 1) =
        2 ^ (num.log2 : ℤ) / 2 ^ ((den.log2 : ℤ) + 1) := by
      rw [← zpow_sub₀ two]
      congr 1
      ring
    rw [split]
    exact div_le_div₀ (Nat.cast_nonneg num) num_low positive den_high.le
  · have split : (2 : ℚ) ^ ((num.log2 : ℤ) - den.log2 + 1) =
        2 ^ ((num.log2 : ℤ) + 1) / 2 ^ (den.log2 : ℤ) := by
      rw [← zpow_sub₀ two]
      congr 1
      ring
    rw [split]
    exact div_lt_div₀ num_high den_low (Nat.cast_nonneg num |>.trans num_high.le) (by positivity)

theorem leastFull_eq : (leastFull : ℚ) = 2 ^ (52 : ℤ) := by
  rw [leastFull]
  norm_num

theorem fullAt_exponentOf {num den : ℕ} (num_pos : 0 < num) (den_pos : 0 < den)
    (large : (2 : ℚ) ^ (-200 : ℤ) ≤ num / den) : FullAt (num / den) (exponentOf num den) := by
  obtain ⟨low, high⟩ := div_log2_bounds num_pos den_pos
  have two : (1 : ℚ) < 2 := one_lt_two
  set guess : ℤ := (num.log2 : ℤ) - den.log2 - 53 with guess_eq
  -- The guess is at most one too small, and the comparison tells.
  have decided : FullAt (num / den) (if 2 * leastFull * (scaled num den guess).2 ≤
      (scaled num den guess).1 then guess + 1 else guess) := by
    have positive : (0 : ℚ) < (scaled num den guess).2 :=
      Nat.cast_pos.mpr (scaled_pos num den_pos _)
    have compare : 2 * leastFull * (scaled num den guess).2 ≤ (scaled num den guess).1 ↔
        (2 : ℚ) ^ (53 + guess) ≤ num / den := by
      rw [← Nat.cast_le (α := ℚ), Nat.cast_mul, Nat.cast_mul, leastFull_eq, ← le_div_iff₀ positive,
        scaled_eq, zpow_neg, ← div_eq_mul_inv, le_div_iff₀ (by positivity)]
      have power : (2 : ℚ) ^ (53 + guess) = (2 : ℕ) * 2 ^ (52 : ℤ) * 2 ^ guess := by
        rw [zpow_add₀ two_ne_zero]
        norm_num
      rw [power]
    split
    next full =>
      refine ⟨?_, high.trans_le (zpow_le_zpow_right₀ two.le (by omega))⟩
      have reached := compare.mp full
      rwa [show 52 + (guess + 1) = 53 + guess by ring]
    next short =>
      refine ⟨(zpow_le_zpow_right₀ two.le (by omega)).trans low, ?_⟩
      exact lt_of_not_ge fun reached => short (compare.mpr reached)
  have normal : leastExponent ≤ (if 2 * leastFull * (scaled num den guess).2 ≤
      (scaled num den guess).1 then guess + 1 else guess) := by
    have above := (zpow_lt_zpow_iff_right₀ two).mp (large.trans_lt decided.2)
    rw [leastExponent]
    omega
  have exponent : exponentOf num den = if 2 * leastFull * (scaled num den guess).2 ≤
      (scaled num den guess).1 then guess + 1 else guess := max_eq_left normal
  rwa [exponent]

/-- The value `a` is `v` up to a part `ε` of it. -/
def Near (ε a v : ℚ) : Prop := |a - v| ≤ ε * v

/-- Half a unit in the last of 53 places. -/
def halfUnit : ℚ := 1 / 2 ^ 53

theorem halfUnit_nonneg : 0 ≤ halfUnit := by norm_num [halfUnit]

theorem halfUnit_lt_one : halfUnit < 1 := by norm_num [halfUnit]

/-- Neither very small nor very large. -/
def InRange (v : ℚ) : Prop := (2 : ℚ) ^ (-200 : ℤ) ≤ v ∧ v ≤ 2 ^ (200 : ℤ)

theorem half_zpow_le {v : ℚ} {e : ℤ} (full : FullAt v e) : 1 / 2 * 2 ^ e ≤ halfUnit * v := by
  have split : (2 : ℚ) ^ (52 + e) = 2 ^ 52 * 2 ^ e := by
    rw [zpow_add₀ two_ne_zero]
    norm_num
  have low := full.1
  rw [split] at low
  rw [halfUnit]
  linarith

theorem ofRatio?_near {num den : ℕ} (num_pos : 0 < num) (den_pos : 0 < den)
    (range : InRange (num / den)) :
    ∃ x, ofRatio? num den = some x ∧ Near halfUnit x.magnitude (num / den) := by
  set e := exponentOf num den with e_eq
  set m := divHalfEven (scaled num den e).1 (scaled num den e).2 with m_eq
  have full : FullAt (num / den) e := fullAt_exponentOf num_pos den_pos range.1
  have scale_pos : (0 : ℚ) < 2 ^ e := by positivity
  have rounded : |(m : ℚ) * 2 ^ e - num / den| ≤ halfUnit * (num / den) := by
    have near := abs_divHalfEven_sub_le (scaled num den e).1 (scaled_pos num den_pos e)
    rw [scaled_eq, zpow_neg, ← div_eq_mul_inv] at near
    have whole : (m : ℚ) * 2 ^ e - num / den = (m - num / den / 2 ^ e) * 2 ^ e := by
      field_simp
    rw [whole, abs_mul, abs_of_pos scale_pos]
    exact (mul_le_mul_of_nonneg_right near scale_pos.le).trans (half_zpow_le full)
  have small : e ≤ 148 := by
    have below := (zpow_le_zpow_iff_right₀ (one_lt_two (α := ℚ))).mp (full.1.trans range.2)
    omega
  have read : ofRatio? num den = if m = 2 * leastFull
      then if greatestExponent < e + 1 then none else some ⟨false, leastFull, e + 1⟩
      else if greatestExponent < e then none else some ⟨false, m, e⟩ := by
    rw [ofRatio?, if_neg num_pos.ne']
    dsimp only
    split <;> rfl
  rw [read]
  split
  next carry =>
    rw [if_neg (by rw [greatestExponent]; omega)]
    refine ⟨_, rfl, ?_⟩
    rw [Near, magnitude_eq]
    have same : (leastFull : ℚ) * 2 ^ (e + 1) = m * 2 ^ e := by
      rw [carry, zpow_add_one₀ two_ne_zero]
      push_cast
      ring
    rwa [same]
  next =>
    rw [if_neg (by rw [greatestExponent]; omega)]
    refine ⟨_, rfl, ?_⟩
    rwa [Near, magnitude_eq]

variable {x y : Binary64}

theorem ofNat?_near {n : ℕ} (positive : 0 < n) (range : InRange n) :
    ∃ x, ofNat? n = some x ∧ Near halfUnit x.magnitude n := by
  have whole : ((n : ℕ) : ℚ) / (1 : ℕ) = n := by rw [Nat.cast_one, div_one]
  rw [← whole] at range ⊢
  exact ofRatio?_near positive Nat.one_pos range

theorem ratio_num_pos (positive : 0 < x.magnitude) : 0 < x.ratio.1 := by
  refine Nat.pos_of_ne_zero fun none => ?_
  rw [magnitude, none, Nat.cast_zero, zero_div] at positive
  exact lt_irrefl 0 positive

theorem div?_near (x_pos : 0 < x.magnitude) (y_pos : 0 < y.magnitude)
    (range : InRange (x.magnitude / y.magnitude)) :
    ∃ z, x.div? y = some z ∧ Near halfUnit z.magnitude (x.magnitude / y.magnitude) := by
  have whole : ((x.ratio.1 * y.ratio.2 : ℕ) : ℚ) / (x.ratio.2 * y.ratio.1 : ℕ) =
      x.magnitude / y.magnitude := by
    rw [magnitude, magnitude, div_div_div_eq]
    push_cast
    rfl
  rw [← whole] at range ⊢
  exact ofRatio?_near (Nat.mul_pos (ratio_num_pos x_pos) y.ratio_pos)
    (Nat.mul_pos x.ratio_pos (ratio_num_pos y_pos)) range

theorem mul?_near (x_pos : 0 < x.magnitude) (y_pos : 0 < y.magnitude)
    (range : InRange (x.magnitude * y.magnitude)) :
    ∃ z, x.mul? y = some z ∧ Near halfUnit z.magnitude (x.magnitude * y.magnitude) := by
  have whole : ((x.ratio.1 * y.ratio.1 : ℕ) : ℚ) / (x.ratio.2 * y.ratio.2 : ℕ) =
      x.magnitude * y.magnitude := by
    rw [magnitude, magnitude, div_mul_div_comm]
    push_cast
    rfl
  rw [← whole] at range ⊢
  exact ofRatio?_near (Nat.mul_pos (ratio_num_pos x_pos) (ratio_num_pos y_pos))
    (Nat.mul_pos x.ratio_pos y.ratio_pos) range

section

variable {ε δ a b v w : ℚ}

theorem Near.pos (near : Near ε a v) (v_pos : 0 < v) (less : ε < 1) : 0 < a := by
  have low := (abs_le.mp near).1
  have part : ε * v < v := mul_lt_of_lt_one_left v_pos less
  linarith

theorem Near.weaken (near : Near ε a v) (v_pos : 0 < v) (le : ε ≤ δ) : Near δ a v :=
  le_trans (b := ε * v) near (mul_le_mul_of_nonneg_right le v_pos.le)

theorem Near.trans (first : Near ε a v) (second : Near δ b a) (δ_pos : 0 ≤ δ) :
    Near (ε + δ + ε * δ) b v := by
  have bound : a ≤ v + ε * v := by linarith [(abs_le.mp first).2]
  calc |b - v| ≤ |b - a| + |a - v| := abs_sub_le _ _ _
    _ ≤ δ * a + ε * v := add_le_add second first
    _ ≤ δ * (v + ε * v) + ε * v := by gcongr
    _ = (ε + δ + ε * δ) * v := by ring

theorem Near.mul_right (near : Near ε a v) (k_pos : 0 ≤ b) : Near ε (a * b) (v * b) := by
  rw [Near, ← sub_mul, abs_mul, abs_of_nonneg k_pos, ← mul_assoc]
  exact mul_le_mul_of_nonneg_right near k_pos

theorem Near.div (first : Near ε a v) (second : Near δ b w) (v_pos : 0 < v) (w_pos : 0 < w)
    (ε_pos : 0 ≤ ε) (δ_pos : 0 ≤ δ) (less : δ < 1) :
    Near ((ε + δ) / (1 - δ)) (a / b) (v / w) := by
  have b_pos := second.pos w_pos less
  have left : 0 < 1 - δ := sub_pos.mpr less
  have b_low : (1 - δ) * w ≤ b := by linarith [(abs_le.mp second).1]
  have whole : a / b - v / w = ((a - v) * w - v * (b - w)) / (b * w) := by
    field_simp
    ring
  have numerator : |(a - v) * w - v * (b - w)| ≤ (ε + δ) * (v * w) := by
    calc |(a - v) * w - v * (b - w)| ≤ |(a - v) * w| + |v * (b - w)| := abs_sub _ _
      _ = |a - v| * w + v * |b - w| := by rw [abs_mul, abs_mul, abs_of_pos w_pos, abs_of_pos v_pos]
      _ ≤ ε * v * w + v * (δ * w) := by
        exact add_le_add (mul_le_mul_of_nonneg_right first w_pos.le)
          (mul_le_mul_of_nonneg_left second v_pos.le)
      _ = (ε + δ) * (v * w) := by ring
  rw [Near, whole, abs_div, abs_of_pos (mul_pos b_pos w_pos)]
  calc |(a - v) * w - v * (b - w)| / (b * w) ≤ (ε + δ) * (v * w) / ((1 - δ) * w * w) := by
        gcongr
    _ = (ε + δ) / (1 - δ) * (v / w) := by
      field_simp

end

theorem Near.inRange {ε a v : ℚ} (near : Near ε a v) (less : ε ≤ 1 / 2)
    (low : (2 : ℚ) ^ (-100 : ℤ) ≤ v) (high : v ≤ 2 ^ (100 : ℤ)) : InRange a := by
  have v_pos : 0 < v := lt_of_lt_of_le (by positivity) low
  obtain ⟨below, above⟩ := abs_le.mp (near.weaken v_pos less)
  constructor
  · calc (2 : ℚ) ^ (-200 : ℤ) ≤ 1 / 2 * 2 ^ (-100 : ℤ) := by norm_num
      _ ≤ 1 / 2 * v := by gcongr
      _ ≤ a := by linarith
  · calc a ≤ 3 / 2 * v := by linarith
      _ ≤ 3 / 2 * 2 ^ (100 : ℤ) := by gcongr
      _ ≤ 2 ^ (200 : ℤ) := by norm_num

theorem inRange_word {n : ℕ} (positive : 0 < n) (word : n < 2 ^ 64) : InRange n := by
  have low : (1 : ℚ) ≤ n := by exact_mod_cast positive
  have high : (n : ℚ) < 2 ^ 64 := by exact_mod_cast word
  constructor
  · exact le_trans (by norm_num) low
  · exact high.le.trans (by norm_num)

theorem le_divHalfUp_iff {num den k : ℕ} (den_pos : 0 < den) :
    k ≤ divHalfUp num den ↔ (k : ℚ) - 1 / 2 ≤ num / den := by
  have positive : (0 : ℚ) < den := Nat.cast_pos.mpr den_pos
  rw [divHalfUp, Nat.le_div_iff_mul_le (by omega), le_div_iff₀ positive, ← Nat.cast_le (α := ℚ)]
  push_cast
  constructor <;> intro h <;> linarith

/-- Two near values are rounded alike unless a half lies next to them. -/
theorem eq_or_near_half {p q η : ℚ} {n m : ℕ} (near : |p - q| ≤ η) (small : η < 1)
    (n_iff : ∀ k : ℕ, k ≤ n ↔ (k : ℚ) - 1 / 2 ≤ p) (m_iff : ∀ k : ℕ, k ≤ m ↔ (k : ℚ) - 1 / 2 ≤ q) :
    n = m ∨ ∃ k : ℕ, |q - (k + 1 / 2)| ≤ η ∧ (n = k ∨ n = k + 1) := by
  obtain ⟨low, high⟩ := abs_le.mp near
  rcases Nat.lt_trichotomy n m with less | same | more
  · have below : p < n + 1 / 2 := by
      refine lt_of_not_ge fun reached => Nat.not_succ_le_self n ((n_iff (n + 1)).mpr ?_)
      push_cast
      linarith
    have above := (m_iff (n + 1)).mp less
    push_cast at above
    exact .inr ⟨n, abs_le.mpr ⟨by linarith, by linarith⟩, .inl rfl⟩
  · exact .inl same
  · have below : q < m + 1 / 2 := by
      refine lt_of_not_ge fun reached => Nat.not_succ_le_self m ((m_iff (m + 1)).mpr ?_)
      push_cast
      linarith
    have above := (n_iff (m + 1)).mp more
    push_cast at above
    have next : n < m + 2 := by
      refine Nat.lt_of_not_le fun far => ?_
      have far := (n_iff (m + 2)).mp far
      push_cast at far
      linarith
    exact .inr ⟨m, abs_le.mpr ⟨by linarith, by linarith⟩, .inr (by omega)⟩

end Binary64
end FeatureScan
