import FeatureScan.Calendar

/-!
Every day number names an existing date, and the date has that number. The year within a
cycle is found by a division of the day with its leap days taken out; that this is right
at both ends of each of the 400 years is a finite fact, and between them it is monotone.
-/

namespace FeatureScan
namespace Date

/-- Days of a cycle before one of its years. -/
def yearStart (y : Nat) : Nat := 365 * y + y / 4 - y / 100

/-- A day of a cycle without the leap days before it. -/
def withoutLeapDays (c : Nat) : Nat := c - c / 1460 + c / 36524 - c / 146096

theorem withoutLeapDays_mono {a b : Nat} (le : a ≤ b) (bound : b < 146097) :
    withoutLeapDays a ≤ withoutLeapDays b := by
  unfold withoutLeapDays
  have plain : a - a / 1460 ≤ b - b / 1460 := by omega
  have leap : a / 36524 - a / 146096 ≤ b / 36524 - b / 146096 := by omega
  omega

theorem withoutLeapDays_yearStart : ∀ y < 400,
    365 * y ≤ withoutLeapDays (yearStart y) ∧
      withoutLeapDays (yearStart (y + 1) - 1) < 365 * (y + 1) := by
  decide +kernel

/-- The year of a day of a cycle. The last day of a cycle is the additional one. -/
theorem yearStart_le {c y : Nat} (bound : c < 146097) (hy : y = withoutLeapDays c / 365) :
    y < 400 ∧ yearStart y ≤ c ∧ (c < yearStart (y + 1) ∨ y = 399 ∧ c = 146096) := by
  have top : withoutLeapDays c ≤ 145999 := withoutLeapDays_mono (b := 146096) (by omega) (by omega)
  have below : y < 400 := by omega
  refine ⟨below, ?_, ?_⟩
  · cases y with
    | zero => exact Nat.zero_le c
    | succ y =>
        refine Nat.le_of_not_lt fun early => ?_
        have le := withoutLeapDays_mono (a := c) (b := yearStart (y + 1) - 1) (by omega)
          (by unfold yearStart; omega)
        have last := (withoutLeapDays_yearStart y (by omega)).2
        omega
  · by_cases final : y = 399 ∧ c = 146096
    · exact Or.inr final
    · refine Or.inl (Nat.lt_of_not_le fun late => ?_)
      have next : y + 1 < 400 := by
        unfold yearStart at late
        omega
      have le := withoutLeapDays_mono late bound
      have first := (withoutLeapDays_yearStart (y + 1) next).1
      omega

/-- The day within its year, which begins in March. -/
theorem inYear_bounds {c y : Int} (low : 0 ≤ c) (high : c < 146097)
    (hy : y = (c - c / 1460 + c / 36524 - c / 146096) / 365) :
    0 ≤ y ∧ y < 400 ∧ 0 ≤ c - (365 * y + y / 4 - y / 100) ∧
      c - (365 * y + y / 4 - y / 100) ≤ 365 ∧
      (c - (365 * y + y / 4 - y / 100) = 365 →
        (y + 1) % 4 = 0 ∧ ((y + 1) % 100 ≠ 0 ∨ (y + 1) % 400 = 0)) := by
  obtain ⟨n, rfl⟩ := Int.eq_ofNat_of_zero_le low
  obtain ⟨below, first, last⟩ := yearStart_le (c := n) (by omega) rfl
  have same : y = ((withoutLeapDays n / 365 : Nat) : Int) := by
    unfold withoutLeapDays
    omega
  generalize withoutLeapDays n / 365 = k at below first last same
  unfold yearStart at first last
  clear hy
  subst same
  refine ⟨by omega, by omega, by omega, ?_, fun _ => ?_⟩
  · rcases last with last | ⟨_, _⟩ <;> omega
  · rcases last with last | ⟨rfl, _⟩
    · have leap : (k + 1) / 4 = k / 4 + 1 ∧ (k + 1) / 100 = k / 100 := by omega
      refine ⟨by omega, Or.inl ?_⟩
      omega
    · exact ⟨by decide, Or.inr (by decide)⟩

/-- The month, counted from March, and the day within it. -/
theorem inMonth_bounds {d m : Int} (low : 0 ≤ d) (high : d ≤ 365) (hm : m = (5 * d + 2) / 153) :
    0 ≤ m ∧ m ≤ 11 ∧ (153 * m + 2) / 5 ≤ d ∧ d < (153 * (m + 1) + 2) / 5 := by
  omega

/-- A date by its place: the cycle, the year in the cycle, the month from March, and the day
of the month from zero. -/
theorem ofDays_place (n : Int) :
    ∃ era y m d : Int,
      n = era * cycle + (365 * y + y / 4 - y / 100) + (153 * m + 2) / 5 + d - epoch ∧
        0 ≤ y ∧ y < 400 ∧ 0 ≤ m ∧ m ≤ 11 ∧ 0 ≤ d ∧
        (153 * m + 2) / 5 + d < (153 * (m + 1) + 2) / 5 ∧
        ((153 * m + 2) / 5 + d ≤ 365) ∧
        ((153 * m + 2) / 5 + d = 365 →
          (y + 1) % 4 = 0 ∧ ((y + 1) % 100 ≠ 0 ∨ (y + 1) % 400 = 0)) ∧
        ofDays n = ⟨y + era * 400 + (if m < 10 then 0 else 1),
          (if m < 10 then m + 3 else m - 9).toNat, (d + 1).toNat⟩ := by
  unfold ofDays
  extract_lets z c y inYear m day month
  have low : 0 ≤ c := Int.emod_nonneg z (by decide)
  have high : c < 146097 := Int.emod_lt_of_pos z (by decide)
  have whole : z = z / cycle * cycle + c := by
    have := Int.mul_ediv_add_emod z cycle
    rw [Int.mul_comm] at this
    exact this.symm
  obtain ⟨y0, y1, d0, d1, leap⟩ := inYear_bounds low high (y := y) rfl
  obtain ⟨m0, m1, first, last⟩ := inMonth_bounds d0 d1 (m := m) rfl
  refine ⟨z / cycle, y, m, inYear - (153 * m + 2) / 5, ?_, y0, y1, m0, m1, ?_, ?_, ?_, ?_, ?_⟩
  · have shifted : n + epoch = z / cycle * cycle + c := whole
    have dayOfYear : c = (365 * y + y / 4 - y / 100) + inYear := by omega
    omega
  · omega
  · omega
  · omega
  · intro final
    exact leap (by omega)
  · congr 1
    by_cases h : m < 10
    · have early : month = m + 3 := if_pos h
      rw [if_pos h, if_neg (by omega)]
    · have late : month = m - 9 := if_neg h
      rw [if_neg h, if_pos (by omega)]

/-- The month of the calendar, by its number from March. -/
def calendarMonth (m : Int) : Nat := (if m < 10 then m + 3 else m - 9).toNat

theorem calendarMonth_early {m : Int} (low : 0 ≤ m) (early : m < 10) :
    (calendarMonth m : Int) = m + 3 := by
  unfold calendarMonth
  rw [if_pos early]
  omega

theorem calendarMonth_late {m : Int} (late : ¬ m < 10) : (calendarMonth m : Int) = m - 9 := by
  unfold calendarMonth
  rw [if_neg late]
  omega

/-- All months but the last one from March have the same days in all years. -/
theorem daysInMonth_calendarMonth (y : Int) {m : Int} (low : 0 ≤ m) (high : m ≤ 10) :
    (daysInMonth y (calendarMonth m) : Int) = (153 * (m + 1) + 2) / 5 - (153 * m + 2) / 5 := by
  have months : m = 0 ∨ m = 1 ∨ m = 2 ∨ m = 3 ∨ m = 4 ∨ m = 5 ∨ m = 6 ∨ m = 7 ∨ m = 8 ∨ m = 9 ∨
      m = 10 := by omega
  rcases months with rfl | rfl | rfl | rfl | rfl | rfl | rfl | rfl | rfl | rfl | rfl <;> rfl

theorem isLeapYear_eq_true {y : Int} (four : y % 4 = 0) (century : y % 100 ≠ 0 ∨ y % 400 = 0) :
    isLeapYear y = true := by
  simp only [isLeapYear, Bool.and_eq_true, Bool.or_eq_true, decide_eq_true_eq, ne_eq]
  exact ⟨four, century⟩

theorem ofDays_valid (n : Int) : (ofDays n).Valid := by
  obtain ⟨era, y, m, d, _, y0, y1, m0, m1, d0, inMonth, inYear, leap, same⟩ := ofDays_place n
  have low : 1 ≤ calendarMonth m ∧ calendarMonth m ≤ 12 := by
    by_cases early : m < 10
    · have := calendarMonth_early m0 early
      omega
    · have := calendarMonth_late early
      omega
  rw [same]
  have first : 1 ≤ (d + 1).toNat := by omega
  refine ⟨low.1, low.2, first, ?_⟩
  change (d + 1).toNat ≤ daysInMonth (y + era * 400 + if m < 10 then 0 else 1) (calendarMonth m)
  by_cases last : m = 11
  · subst last
    have february : daysInMonth (y + era * 400 + 1) 2 =
        if isLeapYear (y + era * 400 + 1) then 29 else 28 := rfl
    change (d + 1).toNat ≤ daysInMonth (y + era * 400 + 1) 2
    rw [february]
    by_cases final : d = 28
    · -- The 29th day is the last one of a year from March that ends in a leap year.
      obtain ⟨four, century⟩ := leap (by omega)
      rw [isLeapYear_eq_true (by omega) (by omega), if_pos rfl]
      omega
    · split <;> omega
  · have days := daysInMonth_calendarMonth (y + era * 400 + if m < 10 then 0 else 1) m0 (by omega)
    omega

theorem toDays_ofDays (n : Int) : (ofDays n).toDays = n := by
  obtain ⟨era, y, m, d, hn, y0, y1, m0, m1, d0, _, _, _, same⟩ := ofDays_place n
  have days : ((d + 1).toNat : Int) = d + 1 := Int.toNat_of_nonneg (by omega)
  have quotient : (y + era * 400) / 400 = era := by omega
  have remainder : (y + era * 400) % 400 = y := by omega
  -- The year and the month from March are those that the date was made of.
  have year : (if calendarMonth m ≤ 2 then (y + era * 400 + if m < 10 then 0 else 1) - 1
      else y + era * 400 + if m < 10 then 0 else 1) = y + era * 400 := by
    by_cases early : m < 10
    · have month := calendarMonth_early m0 early
      rw [if_neg (by omega), if_pos early, Int.add_zero]
    · have month := calendarMonth_late early
      rw [if_pos (by omega), if_neg early, Int.add_sub_cancel]
  have march : (if 2 < calendarMonth m then (calendarMonth m : Int) - 3
      else calendarMonth m + 9) = m := by
    by_cases early : m < 10
    · have month := calendarMonth_early m0 early
      rw [if_pos (by omega)]
      omega
    · have month := calendarMonth_late early
      rw [if_neg (by omega)]
      omega
  rw [same]
  unfold toDays
  dsimp only
  rw [← calendarMonth, year, march, quotient, remainder, days, hn]
  omega

end Date
end FeatureScan
