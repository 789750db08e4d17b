import FeatureScan.Summary
import FeatureScan.Proofs.Rounding

/-!
The score as a rounded percentage. Four roundings to 53 bits come before the one to a natural, so
a percentage within `2 ^ (-44)` of a half may be rounded to the other side. Any other percentage is
rounded as it should be, and so the score of fewer than `2 ^ 43` features is wrong only where the
percentage is a half and is rounded down.
-/

namespace FeatureScan

namespace Summary

open Binary64

/-- The percentage as it is computed. -/
def percent? (s : Summary) : Option Binary64 :=
  (Binary64.ofNat? s.baseline).bind fun b =>
    (Binary64.ofNat? s.total).bind fun t =>
      (b.div? t).bind fun share => (Binary64.ofNat? 100).bind share.mul?

theorem score_eq (s : Summary) : s.score =
    if s.total = 0 then none else some (min 100 ((s.percent?.map Binary64.round).getD 100)) := rfl

/-- The percentage rounded to the nearest natural number, a half going up. -/
def exactScore (s : Summary) : ℕ := (200 * s.baseline + s.total) / (2 * s.total)

theorem exactScore_eq (s : Summary) : s.exactScore = divHalfUp (100 * s.baseline) s.total := by
  rw [exactScore, divHalfUp, ← Nat.mul_assoc]

def hundred : Binary64 := ⟨false, 0x19000000000000, -46⟩

theorem ofNat?_hundred : Binary64.ofNat? 100 = some hundred := by decide +kernel

theorem magnitude_hundred : hundred.magnitude = 100 := by
  rw [magnitude_eq, hundred]
  norm_num

variable {s : Summary}

theorem percent?_eq {b t share : Binary64} (b_eq : Binary64.ofNat? s.baseline = some b)
    (t_eq : Binary64.ofNat? s.total = some t) (share_eq : b.div? t = some share) :
    s.percent? = share.mul? hundred := by
  rw [percent?, b_eq, Option.bind_some, t_eq, Option.bind_some, share_eq, Option.bind_some,
    ofNat?_hundred, Option.bind_some]

theorem percent_le (some_found : 0 < s.total) (part : s.baseline ≤ s.total) :
    (s.baseline : ℚ) / s.total * 100 ≤ 100 := by
  have share : (s.baseline : ℚ) / s.total ≤ 1 :=
    (div_le_one (Nat.cast_pos.mpr some_found)).mpr (by exact_mod_cast part)
  linarith

theorem share_bounds (some_found : 0 < s.baseline) (part : s.baseline ≤ s.total)
    (word : s.total < 2 ^ 64) :
    (2 : ℚ) ^ (-64 : ℤ) ≤ s.baseline / s.total ∧ (s.baseline : ℚ) / s.total ≤ 1 := by
  have total_pos : (0 : ℚ) < s.total := Nat.cast_pos.mpr (Nat.lt_of_lt_of_le some_found part)
  have low : (1 : ℚ) ≤ s.baseline := by exact_mod_cast some_found
  have high : (s.total : ℚ) ≤ 2 ^ 64 := by exact_mod_cast word.le
  have part : (s.baseline : ℚ) ≤ s.total := by exact_mod_cast part
  refine ⟨?_, (div_le_one total_pos).mpr part⟩
  rw [le_div_iff₀ total_pos]
  calc (2 : ℚ) ^ (-64 : ℤ) * s.total ≤ 2 ^ (-64 : ℤ) * 2 ^ 64 := by gcongr
    _ = 1 := by norm_num
    _ ≤ s.baseline := low

/-- The quotient of the two rounded counts, before it is rounded itself. -/
theorem share_near (some_found : 0 < s.baseline) (part : s.baseline ≤ s.total)
    (word : s.total < 2 ^ 64) :
    ∃ b t, Binary64.ofNat? s.baseline = some b ∧ Binary64.ofNat? s.total = some t ∧
      0 < b.magnitude ∧ 0 < t.magnitude ∧
      Near (5 / 2 * halfUnit) (b.magnitude / t.magnitude) (s.baseline / s.total) := by
  have total_pos : 0 < s.total := Nat.lt_of_lt_of_le some_found part
  have b_pos : (0 : ℚ) < s.baseline := Nat.cast_pos.mpr some_found
  have t_pos : (0 : ℚ) < s.total := Nat.cast_pos.mpr total_pos
  obtain ⟨b, b_eq, b_near⟩ := ofNat?_near some_found
    (inRange_word some_found (Nat.lt_of_le_of_lt part word))
  obtain ⟨t, t_eq, t_near⟩ := ofNat?_near total_pos (inRange_word total_pos word)
  have quotient := b_near.div t_near b_pos t_pos halfUnit_nonneg halfUnit_nonneg halfUnit_lt_one
  refine ⟨b, t, b_eq, t_eq, b_near.pos b_pos halfUnit_lt_one, t_near.pos t_pos halfUnit_lt_one,
    quotient.weaken (div_pos b_pos t_pos) ?_⟩
  norm_num [halfUnit]

theorem percent?_near (some_found : 0 < s.baseline) (part : s.baseline ≤ s.total)
    (word : s.total < 2 ^ 64) :
    ∃ p, s.percent? = some p ∧
      Near (5 * halfUnit) p.magnitude (s.baseline / s.total * 100) := by
  obtain ⟨low, high⟩ := share_bounds some_found part word
  have share_pos : (0 : ℚ) < s.baseline / s.total := lt_of_lt_of_le (by positivity) low
  obtain ⟨b, t, b_eq, t_eq, b_pos, t_pos, quotient⟩ := share_near some_found part word
  obtain ⟨share, share_eq, rounded⟩ := div?_near b_pos t_pos
    (quotient.inRange (by norm_num [halfUnit]) (le_trans (by norm_num) low)
      (high.trans (by norm_num)))
  have near := quotient.trans rounded halfUnit_nonneg
  have product := near.mul_right (b := 100) (by norm_num)
  have factor_pos : 0 < hundred.magnitude := by
    rw [magnitude_hundred]
    norm_num
  have range : InRange (share.magnitude * hundred.magnitude) := by
    rw [magnitude_hundred]
    refine product.inRange (by norm_num [halfUnit]) ?_ ?_
    · calc (2 : ℚ) ^ (-100 : ℤ) ≤ 2 ^ (-64 : ℤ) * 100 := by norm_num
        _ ≤ s.baseline / s.total * 100 := by gcongr
    · calc (s.baseline : ℚ) / s.total * 100 ≤ 1 * 100 := by gcongr
        _ ≤ 2 ^ (100 : ℤ) := by norm_num
  obtain ⟨p, p_eq, rounded⟩ :=
    mul?_near (near.pos share_pos (by norm_num [halfUnit])) factor_pos range
  rw [magnitude_hundred] at rounded
  refine ⟨p, (percent?_eq b_eq t_eq share_eq).trans p_eq,
    (product.trans rounded halfUnit_nonneg).weaken (by positivity) (by norm_num [halfUnit])⟩

theorem abs_sub_le_of_near {v : ℚ} {x : Binary64} (near : Near (5 * halfUnit) x.magnitude v)
    (v_high : v ≤ 100) : |x.magnitude - v| ≤ 1 / 2 ^ 44 := by
  calc |x.magnitude - v| ≤ 5 * halfUnit * v := near
    _ ≤ 5 * halfUnit * 100 := by
      have positive := halfUnit_nonneg
      gcongr
    _ ≤ 1 / 2 ^ 44 := by norm_num [halfUnit]

theorem score_of_none (none : s.baseline = 0) (some_found : 0 < s.total) (word : s.total < 2 ^ 64) :
    s.score = some s.exactScore := by
  obtain ⟨t, t_eq, _⟩ := ofNat?_near some_found (inRange_word some_found word)
  have zero_div : zero.div? t = some zero := by
    rw [div?, show zero.ratio.1 = 0 from rfl, Nat.zero_mul, ofRatio?, if_pos rfl]
  have zero_mul : zero.mul? hundred = some zero := by
    rw [mul?, show zero.ratio.1 = 0 from rfl, Nat.zero_mul, ofRatio?, if_pos rfl]
  have zero_eq : Binary64.ofNat? s.baseline = some zero := by
    rw [none, Binary64.ofNat?, ofRatio?, if_pos rfl]
  have rounded : Binary64.round zero = 0 := by decide +kernel
  have exact : s.exactScore = 0 := by
    rw [exactScore, none]
    exact Nat.div_eq_of_lt (by omega)
  rw [score_eq, if_neg some_found.ne', percent?_eq zero_eq t_eq zero_div, zero_mul, Option.map_some,
    Option.getD_some, rounded, exact]
  rfl

/-- The percentage differs from `k + 1 / 2` by `2 ^ (-44)` at most. -/
def NearHalf (s : Summary) (k : ℕ) : Prop :=
  2 ^ 43 * |200 * (s.baseline : ℤ) - (2 * k + 1) * s.total| ≤ s.total

theorem nearHalf_of_abs_sub_le {k : ℕ} (total_pos : 0 < s.total)
    (near : |(s.baseline : ℚ) / s.total * 100 - (k + 1 / 2)| ≤ 1 / 2 ^ 44) : s.NearHalf k := by
  have positive : (0 : ℚ) < s.total := Nat.cast_pos.mpr total_pos
  have whole : (s.baseline : ℚ) / s.total * 100 - (k + 1 / 2) =
      (200 * s.baseline - (2 * k + 1) * s.total) / (2 * s.total) := by
    field_simp
    ring
  have twice : (0 : ℚ) < 2 * s.total := by positivity
  rw [whole, abs_div, abs_of_pos twice, div_le_iff₀ twice] at near
  have scaled : 2 ^ 43 * |200 * (s.baseline : ℚ) - (2 * k + 1) * s.total| ≤ s.total := by
    linarith
  rw [NearHalf]
  exact_mod_cast scaled

/-- A percentage of fewer features is not next to a half without being one. -/
theorem eq_of_nearHalf {k : ℕ} (near : s.NearHalf k) (small : s.total < 2 ^ 43) :
    200 * s.baseline = (2 * k + 1) * s.total := by
  have none : |200 * (s.baseline : ℤ) - (2 * k + 1) * s.total| = 0 := by
    rw [NearHalf] at near
    have nonneg := abs_nonneg (200 * (s.baseline : ℤ) - (2 * k + 1) * s.total)
    omega
  have same := sub_eq_zero.mp (abs_eq_zero.mp none)
  exact_mod_cast same

theorem exactScore_of_half {k : ℕ} (total_pos : 0 < s.total)
    (half : 200 * s.baseline = (2 * k + 1) * s.total) : s.exactScore = k + 1 := by
  rw [exactScore, half]
  have whole : (2 * k + 1) * s.total + s.total = (k + 1) * (2 * s.total) := by ring
  rw [whole, Nat.mul_div_cancel _ (by omega)]

theorem round_le {p : Binary64} (some_found : 0 < s.total) (part : s.baseline ≤ s.total)
    (near : Near (5 * halfUnit) p.magnitude (s.baseline / s.total * 100)) : p.round ≤ 100 := by
  refine Nat.le_of_lt_succ (Nat.lt_of_not_le fun beyond => ?_)
  have high := percent_le some_found part
  have beyond : ((101 : ℕ) : ℚ) - 1 / 2 ≤ p.magnitude := (le_divHalfUp_iff p.ratio_pos).mp beyond
  have close := (abs_le.mp (abs_sub_le_of_near near high)).2
  norm_num at beyond close
  linarith

/-- The computed percentage is rounded like the exact one, or that lies next to a half. -/
theorem round_exact_or_near_half {p : Binary64} (some_found : 0 < s.total)
    (part : s.baseline ≤ s.total)
    (near : Near (5 * halfUnit) p.magnitude (s.baseline / s.total * 100)) :
    p.round = s.exactScore ∨ ∃ k, s.NearHalf k ∧ (p.round = k ∨ p.round = k + 1) := by
  have high : (s.baseline : ℚ) / s.total * 100 ≤ 100 := percent_le some_found part
  have exact_iff (k : ℕ) : k ≤ s.exactScore ↔ (k : ℚ) - 1 / 2 ≤ s.baseline / s.total * 100 := by
    rw [exactScore_eq, le_divHalfUp_iff some_found]
    push_cast
    rw [mul_comm 100, mul_div_right_comm]
  rcases eq_or_near_half (abs_sub_le_of_near near high) (by norm_num)
    (fun _ => le_divHalfUp_iff p.ratio_pos) exact_iff with same | ⟨k, close, rounded⟩
  · exact .inl same
  · exact .inr ⟨k, nearHalf_of_abs_sub_le some_found close, rounded⟩

/-- The score is the percentage of supported features rounded to the nearest natural number, a
half going up, unless the percentage lies next to a half. Then it is one of the two neighbours of
the half. Of fewer than `2 ^ 43` features the score can only be wrong if the percentage is a half
and has been rounded down. A count of the program has 64 bits. -/
theorem score_exact_or_near_half (s : Summary) (some_found : 0 < s.total)
    (part : s.baseline ≤ s.total) (word : s.total < 2 ^ 64) :
    ∃ n, s.score = some n ∧
      (n = (200 * s.baseline + s.total) / (2 * s.total) ∨
        (∃ k, s.NearHalf k ∧ (n = k ∨ n = k + 1)) ∧
          (s.total < 2 ^ 43 → 200 * s.baseline = (2 * n + 1) * s.total)) := by
  rcases Nat.eq_zero_or_pos s.baseline with none | positive
  · exact ⟨_, score_of_none none some_found word, .inl rfl⟩
  · obtain ⟨p, p_eq, near⟩ := percent?_near positive part word
    have capped : min 100 p.round = p.round := min_eq_right (round_le some_found part near)
    have score : s.score = some p.round := by
      rw [score_eq, if_neg some_found.ne', p_eq, Option.map_some, Option.getD_some, capped]
    refine ⟨_, score, ?_⟩
    rcases round_exact_or_near_half some_found part near with exact | ⟨k, close, down | up⟩
    · exact .inl exact
    · exact .inr ⟨⟨k, close, .inl down⟩, fun small => down ▸ eq_of_nearHalf close small⟩
    · by_cases small : s.total < 2 ^ 43
      -- A half that went up is rounded as it should be.
      · exact .inl (up.trans (exactScore_of_half some_found (eq_of_nearHalf close small)).symm)
      · exact .inr ⟨⟨k, close, .inr up⟩, fun less => absurd less small⟩

theorem score_of_third_exact :
    0 < (⟨3, 1, 0, 2⟩ : Summary).total ∧ (⟨3, 1, 0, 2⟩ : Summary).baseline ≤ 3 ∧
      ∃ n, (⟨3, 1, 0, 2⟩ : Summary).score = some n ∧ n = (200 * 1 + 3) / (2 * 3) := by
  refine ⟨by decide, by decide, ?_⟩
  obtain ⟨n, score, exact | ⟨_, half⟩⟩ :=
    score_exact_or_near_half ⟨3, 1, 0, 2⟩ (by decide) (by decide) (by decide)
  · exact ⟨n, score, exact⟩
  · have half : 200 * 1 = (2 * n + 1) * 3 := half (by decide)
    omega

/-- Of 40 features 23 are 57.5 percent, and the product comes out below that. -/
theorem half_percent_rounded_down :
    (⟨40, 23, 0, 17⟩ : Summary).score = some 57 ∧ (200 * 23 + 40) / (2 * 40) = 58 := by
  decide +kernel

end Summary
end FeatureScan
