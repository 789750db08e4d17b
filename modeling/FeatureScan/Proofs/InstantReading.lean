import FeatureScan.Proofs.InstantText
import Mathlib.Data.List.TakeWhile

/-!
Whatever text an instant is read from, it is one of the calendar: the reader takes no second but
60 for a leap second, and checks the year that the offset leads to.
-/

namespace FeatureScan
namespace Instant

theorem readNumber_lt {width n : Nat} {input rest : List Char}
    (read : readNumber width input = some (n, rest)) :
    input.length - rest.length ≤ width ∧ n < 10 ^ (input.length - rest.length) := by
  unfold readNumber at read
  extract_lets digits at read
  split at read
  · cases read
  · cases read
    have all : ∀ c ∈ digits, c.isDigit = true := fun c mem => List.mem_takeWhile_imp mem
    have within : digits.length ≤ min width input.length := by
      rw [← List.length_take]
      exact (List.takeWhile_sublist _).length_le
    have value := Text.decimalValue_lt all
    have used : input.length - (input.drop digits.length).length = digits.length := by
      rw [List.length_drop]
      omega
    rw [used]
    exact ⟨by omega, value⟩

theorem readFraction_lt {n : Nat} {input rest : List Char}
    (read : readFraction input = some (n, rest)) : n < nanosPerSecond := by
  unfold readFraction at read
  split at read
  next digits =>
    simp only [Option.bind_eq_bind, Option.bind_eq_some_iff] at read
    obtain ⟨⟨m, after⟩, number, same⟩ := read
    cases same
    obtain ⟨nine, value⟩ := readNumber_lt number
    have split : nanosPerSecond =
        10 ^ (digits.length - after.length) * 10 ^ (9 - (digits.length - after.length)) := by
      rw [← Nat.pow_add, Nat.add_sub_of_le nine]
      rfl
    rw [split]
    exact Nat.mul_lt_mul_of_pos_right value (Nat.pow_pos (by decide))
  next =>
    cases read
    decide

theorem readClock_leap {second nanos : Nat} {input rest : List Char}
    (read : readClock input = some ((second, nanos), rest)) :
    nanos < 2 * nanosPerSecond ∧ (nanosPerSecond ≤ nanos → second % 60 = 59) := by
  simp only [readClock, Option.bind_eq_bind, Option.bind_eq_some_iff] at read
  obtain ⟨⟨hour, _⟩, _, _, _, ⟨minute, _⟩, _, _, _, ⟨sec, _⟩, _, ⟨part, _⟩, fraction, same⟩ := read
  cases same
  have small := readFraction_lt fraction
  dsimp only at small ⊢
  split
  · exact ⟨by omega, fun _ => by omega⟩
  · exact ⟨by omega, fun late => by omega⟩

theorem readOffset_minutes {offset : Int} {input rest : List Char}
    (read : readOffset input = some (offset, rest)) : offset % 60 = 0 := by
  unfold readOffset at read
  extract_lets signed at read
  have whole : ∀ sign input, signed sign input = some (offset, rest) → offset % 60 = 0 := by
    intro sign input read
    simp only [signed, Option.bind_eq_bind, Option.bind_eq_some_iff] at read
    obtain ⟨⟨hours, _⟩, _, ⟨minutes, _⟩, _, read⟩ := read
    dsimp only at read
    split at read
    · cases read
      have sum : (hours : Int) * 3600 + minutes * 60 = 60 * (hours * 60 + minutes) := by omega
      rw [sum, Int.mul_left_comm, Int.mul_emod_right]
    · cases read
  split at read
  · cases read
    rfl
  · cases read
    rfl
  · exact whole _ _ read
  · exact whole _ _ read
  · exact whole _ _ read
  · split at read
    · cases read
      rfl
    · cases read
  · cases read

/-- Offsets are whole minutes, so they move no leap second away from the end of its minute. -/
theorem regular_of_parts {days offset : Int} {second nanos : Nat}
    {input after rest rest' : List Char}
    (clock : readClock input = some ((second, nanos), rest))
    (shift : readOffset after = some (offset, rest'))
    (named : inRange ⟨days * secondsPerDay + second - offset, nanos⟩ = true) :
    Regular ⟨days * secondsPerDay + second - offset, nanos⟩ := by
  obtain ⟨nanos_lt, leap⟩ := readClock_leap clock
  have minutes := readOffset_minutes shift
  refine ⟨nanos_lt, fun late => ?_, named⟩
  have last := leap late
  unfold secondsPerDay
  dsimp only
  omega

theorem regular_of_read? {s : String} {t : Instant} (read : read? s = some t) : t.Regular := by
  simp only [read?, Option.bind_eq_bind, Option.bind_eq_some_iff] at read
  obtain ⟨⟨date, rest⟩, _, read⟩ := read
  dsimp only at read
  split at read
  all_goals
    simp only [Option.bind_some, Option.bind_none, Option.bind_eq_some_iff, reduceCtorEq] at read
  all_goals
    obtain ⟨⟨⟨second, nanos⟩, _⟩, clock, ⟨offset, _⟩, shift, read⟩ := read
    split at read
    next accepted =>
      cases read
      exact regular_of_parts clock shift accepted.2.2
    next => cases read

end Instant
end FeatureScan
