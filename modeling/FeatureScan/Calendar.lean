/-!
The Gregorian calendar, extended to all years. Days are counted from 1 January 1970. The
arithmetic uses years that begin in March, so that the day added in a leap year is the
last one, and cycles of 400 years, which all have the same number of days.
-/

namespace FeatureScan

structure Date where
  year : Int
  month : Nat
  day : Nat
  deriving Repr, DecidableEq

namespace Date

/-- Days in 400 years. -/
def cycle : Int := 146097

/-- Days from the first of March of year 0 to the first of January 1970. -/
def epoch : Int := 719468

def isLeapYear (y : Int) : Bool := y % 4 = 0 && (y % 100 ≠ 0 || y % 400 = 0)

def daysInMonth (y : Int) : Nat → Nat
  | 2 => if isLeapYear y then 29 else 28
  | 4 | 6 | 9 | 11 => 30
  | _ => 31

/-- Whether the month and the day exist in the year. -/
def Valid (d : Date) : Prop :=
  1 ≤ d.month ∧ d.month ≤ 12 ∧ 1 ≤ d.day ∧ d.day ≤ daysInMonth d.year d.month

instance (d : Date) : Decidable d.Valid := inferInstanceAs (Decidable (_ ∧ _ ∧ _ ∧ _))

/-- The day with number `n`. -/
def ofDays (n : Int) : Date :=
  let z := n + epoch
  let inCycle := z % cycle
  let year := (inCycle - inCycle / 1460 + inCycle / 36524 - inCycle / 146096) / 365
  let inYear := inCycle - (365 * year + year / 4 - year / 100)
  let march := (5 * inYear + 2) / 153
  let day := inYear - (153 * march + 2) / 5 + 1
  let month := if march < 10 then march + 3 else march - 9
  ⟨year + z / cycle * 400 + (if month ≤ 2 then 1 else 0), month.toNat, day.toNat⟩

/-- The number of a day. -/
def toDays (d : Date) : Int :=
  let y := if d.month ≤ 2 then d.year - 1 else d.year
  let year := y % 400
  let march : Int := if 2 < d.month then d.month - 3 else d.month + 9
  let inYear := (153 * march + 2) / 5 + d.day - 1
  y / 400 * cycle + (365 * year + year / 4 - year / 100 + inYear) - epoch

end Date
end FeatureScan
