import FeatureScan.Instant.Reader
import FeatureScan.Proofs.CalendarDays
import FeatureScan.Proofs.Text.Digits
import Mathlib.Algebra.Group.Nat.Defs

/-!
The text of an instant names it. The reader takes any number of digits up to a width, so
each part is written with all its places. A leap second is written as second 60 and read
as the nanoseconds beyond the second before it.
-/

namespace FeatureScan
namespace Instant

/-- What the instants of the calendar satisfy: only the last second of a minute may be
followed by a leap second, and the year can be named. -/
structure Regular (t : Instant) : Prop where
  nanos_lt : t.nanos < 2 * nanosPerSecond
  leap : nanosPerSecond ≤ t.nanos → t.seconds % 60 = 59
  named : t.inRange = true

instance (t : Instant) : Decidable t.Regular :=
  decidable_of_iff
    (t.nanos < 2 * nanosPerSecond ∧ (nanosPerSecond ≤ t.nanos → t.seconds % 60 = 59) ∧
      t.inRange = true)
    ⟨fun ⟨a, b, c⟩ => ⟨a, b, c⟩, fun ⟨a, b, c⟩ => ⟨a, b, c⟩⟩

def shown (t : Instant) : Places → Instant
  | .millis => t.toMillis
  | .asNeeded => t

theorem length_padded {width n : Nat} (pos : 0 < width) (fits : n < 10 ^ width) :
    (padded width n).length = width := by
  have le : (Nat.toDigits 10 n).length ≤ width := (Nat.length_toDigits_le_iff (by decide) pos).mpr fits
  simp only [padded, List.length_append, List.length_replicate]
  omega

theorem isDigit_of_mem_padded (width n : Nat) : ∀ c ∈ padded width n, c.isDigit = true := by
  intro c h
  rcases List.mem_append.mp h with h | h
  · rw [List.eq_of_mem_replicate h]
    rfl
  · exact Text.isDigit_of_mem_toDigits c h

theorem not_mem_padded {c : Char} (other : c.isDigit = false) (width n : Nat) :
    c ∉ padded width n := by
  intro mem
  rw [isDigit_of_mem_padded width n c mem] at other
  cases other

/-- A date consists of digits and signs. -/
theorem not_mem_dateText {c : Char} (other : c.isDigit = false) (minus : c ≠ '-') (plus : c ≠ '+')
    (d : Date) : c ∉ dateText d := by
  have year : c ∉ yearText d.year := by
    rw [yearText]
    split
    next => exact not_mem_padded other 4 _
    next => split <;> simp [minus, plus, not_mem_padded other]
  simp [dateText, year, minus, not_mem_padded other]

@[simp] theorem decimalValue_padded (width n : Nat) : Text.decimalValue (padded width n) = n := by
  rw [padded, Text.decimalValue_replicate_append, Text.decimalValue_toDigits]

theorem padded_ne_nil (width n : Nat) : padded width n ≠ [] := by
  intro empty
  exact Nat.toDigits_ne_nil (List.append_eq_nil_iff.mp empty).2

theorem padded_eq_cons (width n : Nat) :
    ∃ c more, padded width n = c :: more ∧ c.isDigit = true := by
  obtain ⟨c, more, digits⟩ := List.exists_cons_of_ne_nil (padded_ne_nil width n)
  exact ⟨c, more, digits, isDigit_of_mem_padded width n c (digits ▸ List.mem_cons_self)⟩

theorem isBlank_of_isDigit {c : Char} (h : c.isDigit = true) : Text.isBlank c = false := by
  have bounds : 48 ≤ c.toNat ∧ c.toNat ≤ 57 := by
    simpa [Char.isDigit, Char.le_def, UInt32.le_iff_toNat_le] using h
  simp only [Text.isBlank, Bool.or_eq_false_iff, Bool.and_eq_false_iff, decide_eq_false_iff_not,
    beq_eq_false_iff_ne]
  omega

theorem skipBlank_cons {c : Char} (h : Text.isBlank c = false) (rest : List Char) :
    skipBlank (c :: rest) = c :: rest := by
  simp [skipBlank, h]

theorem skipBlank_padded (width n : Nat) (rest : List Char) :
    skipBlank (padded width n ++ rest) = padded width n ++ rest := by
  obtain ⟨c, more, digits, digit⟩ := padded_eq_cons width n
  rw [digits]
  exact skipBlank_cons (isBlank_of_isDigit digit) (more ++ rest)

/-- Digits are read up to the width or to the first other character. -/
theorem readNumber_digits {limit width n : Nat} {rest : List Char}
    (within : (padded width n).length ≤ limit)
    (stop : Text.NoDigit (rest.take (limit - (padded width n).length))) :
    readNumber limit (padded width n ++ rest) = some (n, rest) := by
  have taken : ((padded width n ++ rest).take limit).takeWhile Char.isDigit = padded width n := by
    rw [List.take_append, List.take_of_length_le within]
    exact Text.takeWhile_digits (isDigit_of_mem_padded width n) stop
  have some_digit := List.isEmpty_eq_false_iff.mpr (padded_ne_nil width n)
  unfold readNumber
  simp only [taken, some_digit, decimalValue_padded, List.drop_left' rfl, Bool.false_eq_true,
    if_false]

theorem readNumber_padded {width n : Nat} (pos : 0 < width) (fits : n < 10 ^ width)
    (rest : List Char) : readNumber width (padded width n ++ rest) = some (n, rest) := by
  have size := length_padded pos fits
  refine readNumber_digits (Nat.le_of_eq size) ?_
  rw [size, Nat.sub_self, List.take_zero]
  exact Text.noDigit_nil

theorem readPart_padded {least most n : Nat} (low : least ≤ n) (high : n ≤ most)
    (fits : n < 100) (rest : List Char) :
    readPart least most (padded 2 n ++ rest) = some (n, rest) := by
  unfold readPart
  rw [skipBlank_padded, readNumber_padded (by decide) fits]
  simp [low, high]

theorem readMark_cons {mark : Char} (h : Text.isBlank mark = false) (rest : List Char) :
    readMark mark (mark :: rest) = some rest := by
  simp [readMark, skipBlank_cons h]

theorem readYear_yearText (y : Int) {rest : List Char} (stop : Text.NoDigit rest) :
    readYear (yearText y ++ rest) = some (y, rest) := by
  unfold yearText
  split
  next four =>
    have fits : y.natAbs < 10 ^ 4 := by omega
    have same : ((y.natAbs : Nat) : Int) = y := by omega
    unfold readYear
    rw [skipBlank_padded]
    have number := readNumber_padded (by decide) fits rest
    obtain ⟨c, more, digits, digit⟩ := padded_eq_cons 4 y.natAbs
    rw [digits] at number ⊢
    split
    next eq =>
      cases eq
      exact absurd digit (by decide)
    next eq =>
      cases eq
      exact absurd digit (by decide)
    next =>
      rw [number]
      simp [same]
  next signed =>
    have number : readNumber (padded 4 y.natAbs ++ rest).length (padded 4 y.natAbs ++ rest) =
        some (y.natAbs, rest) := readNumber_digits (by simp) (stop.take _)
    by_cases negative : y < 0
    · have same : -((y.natAbs : Nat) : Int) = y := by omega
      rw [if_pos negative, List.cons_append, readYear, skipBlank_cons (by decide)]
      simp only [number, Option.map_some, same]
    · have same : ((y.natAbs : Nat) : Int) = y := by omega
      rw [if_neg negative, List.cons_append, readYear, skipBlank_cons (by decide)]
      simp only [number, Option.map_some, same]

theorem readDate_dateText {d : Date} (valid : d.Valid) (rest : List Char) :
    readDate (dateText d ++ rest) = some (d, rest) := by
  obtain ⟨month0, month1, day0, day1⟩ := valid
  have day31 : d.day ≤ 31 := by
    refine Nat.le_trans day1 ?_
    unfold Date.daysInMonth
    repeat' split
    all_goals decide
  have year := readYear_yearText d.year
    (Text.noDigit_cons (c := '-') (by decide)
      (padded 2 d.month ++ '-' :: (padded 2 d.day ++ rest)))
  have shape : dateText d ++ rest =
      yearText d.year ++ '-' :: (padded 2 d.month ++ '-' :: (padded 2 d.day ++ rest)) := by
    simp [dateText]
  unfold readDate
  rw [shape, year]
  simp only [Option.bind_eq_bind, Option.bind_some]
  rw [readMark_cons (by decide), Option.bind_some, readPart_padded month0 month1 (by omega)]
  simp only [Option.bind_some]
  rw [readMark_cons (by decide), Option.bind_some, readPart_padded day0 day31 (by omega)]
  exact if_pos ⟨month0, month1, day0, day1⟩

def Places.part : Places → Nat → Nat
  | .millis, n => n / 1000000 * 1000000
  | .asNeeded, n => n

theorem readFraction_padded {width n : Nat} (pos : 0 < width) (nine : width ≤ 9)
    (fits : n < 10 ^ width) {rest : List Char} (stop : Text.NoDigit rest) :
    readFraction ('.' :: padded width n ++ rest) = some (n * 10 ^ (9 - width), rest) := by
  have size := length_padded pos fits
  have number := readNumber_digits (Nat.le_trans (Nat.le_of_eq size) nine) (stop.take _)
  have used : (padded width n ++ rest).length - rest.length = width := by
    rw [List.length_append, size]
    omega
  have after : rest.dropWhile Char.isDigit = rest := by
    have dropped := Text.dropWhile_digits (fun c (h : c ∈ []) => nomatch h) stop
    rwa [List.nil_append] at dropped
  simp only [List.cons_append, readFraction, number, Option.bind_eq_bind, Option.bind_some, used,
    after]
  rfl

theorem readFraction_fractionText (places : Places) {n : Nat} (fits : n < nanosPerSecond)
    {rest : List Char} (stop : Text.NoDigit rest) (noPoint : rest.head? ≠ some '.') :
    readFraction (fractionText places n ++ rest) = some (places.part n, rest) := by
  unfold nanosPerSecond at fits
  cases places with
  | millis => exact readFraction_padded (by decide) (by decide) (by omega) stop
  | asNeeded =>
      simp only [fractionText, Places.part]
      by_cases none : n = 0
      · rw [if_pos none, List.nil_append, none]
        unfold readFraction
        split
        next => exact absurd rfl noPoint
        next => rfl
      rw [if_neg none]
      by_cases millis : n % 1000000 = 0
      · have exact_part : n / 1000000 * 10 ^ (9 - 3) = n := by omega
        rw [if_pos millis, readFraction_padded (by decide) (by decide) (by omega) stop, exact_part]
      rw [if_neg millis]
      by_cases micros : n % 1000 = 0
      · have exact_part : n / 1000 * 10 ^ (9 - 6) = n := by omega
        rw [if_pos micros, readFraction_padded (by decide) (by decide) (by omega) stop, exact_part]
      · rw [if_neg micros, readFraction_padded (by decide) (by decide) (by omega) stop]
        simp

theorem secondOfDay_lt (t : Instant) : t.secondOfDay < 86400 := by
  unfold secondOfDay secondsPerDay
  omega

theorem readClock_clockText (t : Instant) (leap : t.second ≤ 60) {after rest : List Char} {n : Nat}
    (fraction : readFraction after = some (n, rest)) :
    readClock (clockText t ++ after) =
      some ((t.hour * 3600 + t.minute * 60 + min t.second 59,
        n + if t.second = 60 then nanosPerSecond else 0), rest) := by
  have day := secondOfDay_lt t
  have hour : t.hour ≤ 23 := by
    unfold hour
    omega
  have minute : t.minute ≤ 59 := by
    unfold minute
    omega
  have shape : clockText t ++ after =
      padded 2 t.hour ++ ':' :: (padded 2 t.minute ++ ':' :: (padded 2 t.second ++ after)) := by
    simp [clockText]
  unfold readClock
  rw [shape, readPart_padded (Nat.zero_le _) hour (by omega)]
  simp only [Option.bind_eq_bind, Option.bind_some]
  rw [readMark_cons (by decide), Option.bind_some,
    readPart_padded (Nat.zero_le _) minute (by omega)]
  simp only [Option.bind_some]
  rw [readMark_cons (by decide), Option.bind_some,
    readPart_padded (Nat.zero_le _) leap (by omega)]
  simp only [Option.bind_some, fraction]

/-- The last second of a minute counts for a leap second too. -/
theorem Regular.clock {t : Instant} (regular : t.Regular) :
    t.second ≤ 60 ∧ (t.second = 60 ↔ nanosPerSecond ≤ t.nanos) ∧
      t.hour * 3600 + t.minute * 60 + min t.second 59 = t.secondOfDay := by
  have nanos := regular.nanos_lt
  have leap := regular.leap
  have day := secondOfDay_lt t
  have minute : (t.secondOfDay : Int) % 60 = t.seconds % 60 := by
    unfold secondOfDay secondsPerDay
    omega
  have split : t.hour * 3600 + t.minute * 60 + t.secondOfDay % 60 = t.secondOfDay := by
    unfold hour Instant.minute
    omega
  unfold second
  unfold nanosPerSecond at *
  by_cases late : 1000000000 ≤ t.nanos
  · have last := leap late
    have one : t.nanos / 1000000000 = 1 := by omega
    rw [one]
    omega
  · have zero : t.nanos / 1000000000 = 0 := by omega
    rw [zero]
    omega

theorem shown_nanos (places : Places) (t : Instant) (bound : t.nanos < 2 * nanosPerSecond) :
    places.part t.fraction + (if nanosPerSecond ≤ t.nanos then nanosPerSecond else 0) =
      (t.shown places).nanos := by
  unfold fraction
  unfold nanosPerSecond at *
  cases places with
  | millis =>
      change t.nanos % 1000000000 / 1000000 * 1000000 + _ = t.nanos / 1000000 * 1000000
      split <;> omega
  | asNeeded =>
      change t.nanos % 1000000000 + _ = t.nanos
      split <;> omega

theorem shown_seconds (places : Places) (t : Instant) : (t.shown places).seconds = t.seconds := by
  cases places <;> rfl

theorem toList_toText (places : Places) (t : Instant) :
    (t.toText places).toList =
      dateText t.date ++ 'T' :: (clockText t ++ (fractionText places t.fraction ++ ['Z'])) := by
  simp [toText]

theorem read?_toText (places : Places) {t : Instant} (regular : t.Regular) :
    read? (t.toText places) = some (t.shown places) := by
  obtain ⟨second, leap, whole⟩ := regular.clock
  have fraction : readFraction (fractionText places t.fraction ++ ['Z']) =
      some (places.part t.fraction, ['Z']) :=
    readFraction_fractionText places (Nat.mod_lt _ (by decide))
      (Text.noDigit_cons (by decide) []) (by decide)
  have clock := readClock_clockText t second fraction
  have days : t.date.toDays = t.seconds / secondsPerDay := Date.toDays_ofDays _
  have named := regular.named
  have seconds : t.date.toDays * secondsPerDay + (t.secondOfDay : Int) - 0 = t.seconds := by
    rw [days]
    unfold secondOfDay secondsPerDay
    omega
  have nanos := shown_nanos places t regular.nanos_lt
  simp only [← leap, whole] at clock nanos
  have same : (⟨t.date.toDays * secondsPerDay + (t.secondOfDay : Int) - 0,
      places.part t.fraction + if t.second = 60 then nanosPerSecond else 0⟩ : Instant) =
      t.shown places := by
    rw [seconds, nanos, ← shown_seconds places t]
  have date : (t.shown places).inRange = t.inRange := by
    unfold inRange Instant.date
    rw [shown_seconds]
  have valid : t.date.Valid := Date.ofDays_valid _
  unfold read?
  rw [toList_toText, readDate_dateText valid]
  simp only [Option.bind_eq_bind, Option.bind_some, clock]
  rw [skipBlank_cons (by decide)]
  simp only [readOffset, Option.bind_some, same, date, named]
  exact if_pos ⟨rfl, named, trivial⟩

end Instant
end FeatureScan
