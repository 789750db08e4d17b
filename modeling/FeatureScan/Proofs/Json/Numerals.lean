import FeatureScan.Proofs.Json.Grammar
import FeatureScan.Proofs.Json.Scalars
import Mathlib.Data.List.TakeWhile

/-!
Numbers are read part by part: the digits in front, the places and the exponent. What is read of
a number is the value of its parts, and nothing but a number is read.
-/

namespace FeatureScan
namespace Json

open Text (NoDigit takeWhile_digits dropWhile_digits)

namespace Numeral

/-- The number with these digits, at this power of ten and the written one. An exponent beyond
32 bits leaves zero or nothing. -/
def scaled (negative : Bool) (significand : Nat) (power : Int) :
    Option (Bool × List Char) → Option Number
  | none => (Binary64.ofDecimal? negative significand power).map .real
  | some (down, digits) =>
      let n := Text.decimalValue digits
      if 0x7fffffff < n then
        if significand ≠ 0 ∧ !down then none else some (.real { Binary64.zero with negative })
      else
        (Binary64.ofDecimal? negative significand (if down then power - n else power + n)).map .real

/-- A number without places and exponent is exact if it fits into 64 bits. -/
def whole? (negative : Bool) (n dropped : Nat) : Option Number :=
  if dropped ≠ 0 then scaled negative n dropped none
  else if !negative then some (.nat n)
  else if n = 0 ∨ 0x8000000000000000 < n then scaled true n 0 none
  else some (.negSucc (n - 1))

/-- The value of a number of which the digits in front give `n`, less those `dropped`. -/
def tail? (negative : Bool) (n dropped : Nat) :
    List Char → Option (Bool × List Char) → Option Number
  | [], none => whole? negative n dropped
  | [], some exponent => scaled negative n dropped (some exponent)
  | places, exponent =>
      scaled negative (fitting n places).1 (dropped - (fitting n places).2) exponent

/-- The value of the number, unless it is out of range. Of many digits only the first count. -/
def value? (n : Numeral) : Option Number :=
  tail? n.negative (fitting 0 n.whole).1 (n.whole.length - (fitting 0 n.whole).2) n.places n.exponent

def value (n : Numeral) : Number := n.value?.getD (.nat 0)

end Numeral

/-- A number was read up to here, or is out of range. -/
def told (value : Option Number) (rest : List Char) : Except Problem (Number × List Char) :=
  match value with
  | some n => .ok (n, rest)
  | none => failAt .numberOutOfRange rest

theorem told_eq_ok {value : Option Number} {rest rest' : List Char} {n : Number} :
    told value rest = .ok (n, rest') ↔ value = some n ∧ rest = rest' := by
  cases value <;> simp [told, failAt]

open Numeral (scaled whole? tail?)

theorem realOf_eq (negative : Bool) (significand : Nat) (power : Int) (rest : List Char) :
    realOf negative significand power rest = told (scaled negative significand power none) rest := by
  rw [realOf, scaled]
  cases Binary64.ofDecimal? negative significand power <;> rfl

theorem digitsOf_append_dropWhile (input : List Char) :
    digitsOf input ++ input.dropWhile Char.isDigit = input := List.takeWhile_append_dropWhile

theorem isDigit_of_mem_digitsOf {input : List Char} : ∀ c ∈ digitsOf input, c.isDigit = true :=
  fun _ => List.mem_takeWhile_imp

theorem noDigit_dropWhile (input : List Char) : NoDigit (input.dropWhile Char.isDigit) := by
  intro c first
  have stop := List.head?_dropWhile_not Char.isDigit input
  rwa [first] at stop

theorem Digits.exists_cons {digits : List Char} (h : Digits digits) :
    ∃ c more, digits = c :: more ∧ c.isDigit = true := by
  obtain ⟨c, more, rfl⟩ := List.exists_cons_of_ne_nil h.1
  exact ⟨c, more, rfl, h.2 c List.mem_cons_self⟩

/-- Where a digit stands, all digits up to the next other character are taken. -/
theorem exists_digits {c : Char} (digit : c.isDigit = true) (input : List Char) :
    ∃ digits rest, c :: input = digits ++ rest ∧ Digits digits ∧ NoDigit rest := by
  refine ⟨digitsOf (c :: input), (c :: input).dropWhile Char.isDigit,
    (digitsOf_append_dropWhile _).symm, ⟨?_, isDigit_of_mem_digitsOf⟩, noDigit_dropWhile _⟩
  rw [digitsOf, List.takeWhile_cons_of_pos digit]
  exact List.cons_ne_nil _ _

section

variable {negative : Bool} {significand : Nat} {power : Int}

theorem readExponent_digits {down : Bool} {sign digits rest : List Char} (signed : Sign down sign)
    (counted : Digits digits) (stop : NoDigit rest) :
    readExponent negative significand power (sign ++ (digits ++ rest)) =
      told (scaled negative significand power (some (down, digits))) rest := by
  have taken : digitsOf (digits ++ rest) = digits := takeWhile_digits counted.2 stop
  have left : (digits ++ rest).dropWhile Char.isDigit = rest := dropWhile_digits counted.2 stop
  obtain ⟨c, more, begins, digit⟩ := counted.exists_cons
  have noPlus : c ≠ '+' := by
    rintro rfl
    cases digit
  have noMinus : c ≠ '-' := by
    rintro rfl
    cases digit
  have parsed : readExponent negative significand power (sign ++ (digits ++ rest)) =
      if 0x7fffffff < Text.decimalValue digits then
        if significand ≠ 0 ∧ !down then failAt .numberOutOfRange rest
        else .ok (.real { Binary64.zero with negative }, rest)
      else
        realOf negative significand
          (if down then power - Text.decimalValue digits else power + Text.decimalValue digits)
          rest := by
    rw [begins, List.cons_append] at taken left ⊢
    cases signed <;> simp [readExponent, taken, left, digit, noPlus, noMinus]
  rw [parsed, scaled]
  split
  next => split <;> rfl
  next => rw [realOf_eq, scaled]

theorem digit_of_readExponent {input rest : List Char} {n : Number}
    (read : readExponent negative significand power input = .ok (n, rest)) :
    ∃ down sign c body, Sign down sign ∧ c.isDigit = true ∧ input = sign ++ c :: body := by
  unfold readExponent at read
  split at read
  next down body parsed =>
    have sign : ∃ sign, Sign down sign ∧ input = sign ++ body := by
      split at parsed
      next =>
        cases parsed
        exact ⟨['+'], .plus, rfl⟩
      next =>
        cases parsed
        exact ⟨['-'], .minus, rfl⟩
      next =>
        cases parsed
        exact ⟨[], .none, rfl⟩
    obtain ⟨sign, signed, rfl⟩ := sign
    cases body with
    | nil => cases read
    | cons c body =>
        cases digit : c.isDigit with
        | true => exact ⟨down, sign, c, body, signed, digit, rfl⟩
        | false => simp [digit, failAt] at read

theorem exists_of_readExponent {input rest : List Char} {n : Number}
    (read : readExponent negative significand power input = .ok (n, rest)) :
    ∃ down sign digits, Sign down sign ∧ Digits digits ∧ input = sign ++ (digits ++ rest) ∧
      scaled negative significand power (some (down, digits)) = some n := by
  obtain ⟨down, sign, c, body, signed, digit, rfl⟩ := digit_of_readExponent read
  obtain ⟨digits, rest', split, counted, stop⟩ := exists_digits digit body
  rw [split, readExponent_digits signed counted stop, told_eq_ok] at read
  exact ⟨down, sign, digits, signed, counted, read.2 ▸ congrArg (sign ++ ·) split, read.1⟩

theorem noDigit_exponent {power : Option (Bool × List Char)} {written rest : List Char}
    (spelled : Exponent power written) (stop : Stops rest) : NoDigit (written ++ rest) := by
  cases spelled with
  | none => exact stop.noDigit
  | given mark marks signed counted =>
      rcases marks with rfl | rfl
      · exact Text.noDigit_cons rfl _
      · exact Text.noDigit_cons rfl _

/-- What is read behind the places. -/
def readPower (negative : Bool) (significand : Nat) (power : Int) (input : List Char) :
    Except Problem (Number × List Char) :=
  match input with
  | 'e' :: rest | 'E' :: rest => readExponent negative significand power rest
  | _ => realOf negative significand power input

theorem readPower_exponent {written rest : List Char} {exponent : Option (Bool × List Char)}
    (spelled : Exponent exponent written) (stop : Stops rest) :
    readPower negative significand power (written ++ rest) =
      told (scaled negative significand power exponent) rest := by
  cases spelled with
  | none =>
      rw [List.nil_append]
      unfold readPower
      split
      next => exact absurd rfl (stop 'e' rfl).2.2.1
      next => exact absurd rfl (stop 'E' rfl).2.2.2
      next => exact realOf_eq _ _ _ _
  | given mark marks signed digits =>
      rw [List.cons_append, List.append_assoc]
      rcases marks with rfl | rfl
      · exact readExponent_digits signed digits stop.noDigit
      · exact readExponent_digits signed digits stop.noDigit

theorem exists_of_readPower {input rest : List Char} {n : Number}
    (read : readPower negative significand power input = .ok (n, rest)) :
    ∃ exponent written, Exponent exponent written ∧ input = written ++ rest ∧
      scaled negative significand power exponent = some n := by
  have marked : ∀ {mark : Char} {after : List Char}, mark = 'e' ∨ mark = 'E' →
      readExponent negative significand power after = .ok (n, rest) →
      ∃ exponent written, Exponent exponent written ∧ mark :: after = written ++ rest ∧
        scaled negative significand power exponent = some n := by
    intro mark after marks read
    obtain ⟨down, sign, digits, signed, counted, rfl, value⟩ := exists_of_readExponent read
    exact ⟨_, _, .given mark marks signed counted, by simp, value⟩
  unfold readPower at read
  split at read
  next => exact marked (.inl rfl) read
  next => exact marked (.inr rfl) read
  next =>
    rw [realOf_eq, told_eq_ok] at read
    exact ⟨none, [], .none, read.2, read.1⟩

theorem readPlaces_eq {input : List Char} (places : digitsOf input ≠ []) :
    readPlaces negative significand power input =
      readPower negative (fitting significand (digitsOf input)).1
        (power - (fitting significand (digitsOf input)).2) (input.dropWhile Char.isDigit) := by
  unfold readPlaces
  split
  next nothing => exact absurd nothing places
  next => rfl

theorem readPlaces_digits {places written rest : List Char} {exponent : Option (Bool × List Char)}
    (counted : Digits places) (spelled : Exponent exponent written) (stop : Stops rest) :
    readPlaces negative significand power (places ++ (written ++ rest)) =
      told (scaled negative (fitting significand places).1
        (power - (fitting significand places).2) exponent) rest := by
  have next := noDigit_exponent spelled stop
  have taken : digitsOf (places ++ (written ++ rest)) = places := takeWhile_digits counted.2 next
  have left : (places ++ (written ++ rest)).dropWhile Char.isDigit = written ++ rest :=
    dropWhile_digits counted.2 next
  rw [readPlaces_eq (by rw [taken]; exact counted.1), taken, left, readPower_exponent spelled stop]

theorem exists_of_readPlaces {input rest : List Char} {n : Number}
    (read : readPlaces negative significand power input = .ok (n, rest)) :
    ∃ places exponent written, Digits places ∧ Exponent exponent written ∧
      input = places ++ (written ++ rest) ∧
      scaled negative (fitting significand places).1
        (power - (fitting significand places).2) exponent = some n := by
  by_cases places : digitsOf input = []
  · unfold readPlaces at read
    rw [places] at read
    cases input <;> cases read
  · rw [readPlaces_eq places] at read
    obtain ⟨exponent, written, spelled, split, value⟩ := exists_of_readPower read
    refine ⟨_, exponent, written, ⟨places, isDigit_of_mem_digitsOf⟩, spelled, ?_, value⟩
    rw [← split, digitsOf_append_dropWhile]

end

/-- What is read behind the digits in front, of which `dropped` did not fit. -/
def readTail (negative : Bool) (n dropped : Nat) (input : List Char) :
    Except Problem (Number × List Char) :=
  match input with
  | '.' :: rest => readPlaces negative n dropped rest
  | 'e' :: rest | 'E' :: rest => readExponent negative n dropped rest
  | _ => told (whole? negative n dropped) input

theorem readNumber_eq {negative : Bool} {c : Char} {rest : List Char} (digit : c.isDigit = true)
    (lone : c = '0' → NoDigit rest) :
    readNumber negative (c :: rest) =
      readTail negative (fitting 0 (digitsOf (c :: rest))).1
        ((digitsOf (c :: rest)).length - (fitting 0 (digitsOf (c :: rest))).2)
        ((c :: rest).dropWhile Char.isDigit) := by
  have single : ¬ (c = '0' ∧ rest.head?.any Char.isDigit = true) := by
    rintro ⟨zero, more⟩
    obtain ⟨d, first, digit⟩ := (Option.any_eq_true _ _).mp more
    exact nomatch digit.symm.trans (lone zero d first)
  unfold readNumber
  dsimp only
  rw [if_neg (by simp [digit]), if_neg single]
  obtain ⟨n, used⟩ := fitting 0 (digitsOf (c :: rest))
  generalize (c :: rest).dropWhile Char.isDigit = tail
  dsimp only
  unfold readTail
  split
  next => rfl
  next => rfl
  next => rfl
  next =>
    simp only [realOf_eq, whole?]
    split
    next => rfl
    next =>
      split
      next => rfl
      next => split <;> rfl

section

variable {negative : Bool} {n dropped : Nat}

theorem readTail_parts {places fraction : List Char} {exponent : Option (Bool × List Char)}
    {written rest : List Char} (pointed : Fraction places fraction)
    (spelled : Exponent exponent written) (stop : Stops rest) :
    readTail negative n dropped (fraction ++ (written ++ rest)) =
      told (tail? negative n dropped places exponent) rest := by
  cases pointed with
  | point counted =>
      obtain ⟨c, more, rfl, _⟩ := counted.exists_cons
      exact readPlaces_digits counted spelled stop
  | none =>
      cases spelled with
      | none =>
          rw [List.nil_append, List.nil_append]
          unfold readTail
          split
          next => exact absurd rfl (stop '.' rfl).2.1
          next => exact absurd rfl (stop 'e' rfl).2.2.1
          next => exact absurd rfl (stop 'E' rfl).2.2.2
          next => rfl
      | given mark marks signed digits =>
          rw [List.nil_append, List.cons_append, List.append_assoc]
          rcases marks with rfl | rfl
          · exact readExponent_digits signed digits stop.noDigit
          · exact readExponent_digits signed digits stop.noDigit

theorem exists_of_readTail {input rest : List Char} {v : Number}
    (read : readTail negative n dropped input = .ok (v, rest)) :
    ∃ places fraction exponent written, Fraction places fraction ∧ Exponent exponent written ∧
      input = fraction ++ (written ++ rest) ∧
      tail? negative n dropped places exponent = some v := by
  have marked : ∀ {mark : Char} {after : List Char}, mark = 'e' ∨ mark = 'E' →
      readExponent negative n dropped after = .ok (v, rest) →
      ∃ places fraction exponent written, Fraction places fraction ∧ Exponent exponent written ∧
        mark :: after = fraction ++ (written ++ rest) ∧
        tail? negative n dropped places exponent = some v := by
    intro mark after marks read
    obtain ⟨down, sign, digits, signed, counted, rfl, value⟩ := exists_of_readExponent read
    exact ⟨[], [], _, _, .none, .given mark marks signed counted, by simp, value⟩
  unfold readTail at read
  split at read
  next =>
    obtain ⟨places, exponent, written, counted, spelled, rfl, value⟩ := exists_of_readPlaces read
    refine ⟨places, _, exponent, written, .point counted, spelled, rfl, ?_⟩
    obtain ⟨c, more, rfl, _⟩ := counted.exists_cons
    exact value
  next => exact marked (.inl rfl) read
  next => exact marked (.inr rfl) read
  next =>
    obtain ⟨value, rfl⟩ := told_eq_ok.mp read
    exact ⟨[], [], none, [], .none, .none, rfl, value⟩

end

namespace Numeral

variable {n : Numeral} {s rest : List Char}

theorem noDigit_fraction {places fraction : List Char} {exponent : Option (Bool × List Char)}
    {written : List Char} (pointed : Fraction places fraction) (spelled : Exponent exponent written)
    (stop : Stops rest) : NoDigit (fraction ++ (written ++ rest)) := by
  cases pointed with
  | none =>
      rw [List.nil_append]
      exact noDigit_exponent spelled stop
  | point => exact Text.noDigit_cons rfl _

/-- A number with anything behind it that does not continue it is read as its value. -/
theorem readNumber_unsigned (spelled : n.Unsigned s) (stop : Stops rest) :
    readNumber n.negative (s ++ rest) = told n.value? rest := by
  cases spelled with
  | @parts fraction written whole lone places power =>
      have next := noDigit_fraction places power stop
      rw [List.append_assoc, List.append_assoc]
      have taken : digitsOf (n.whole ++ (fraction ++ (written ++ rest))) = n.whole :=
        takeWhile_digits whole.2 next
      have left : (n.whole ++ (fraction ++ (written ++ rest))).dropWhile Char.isDigit =
          fraction ++ (written ++ rest) := dropWhile_digits whole.2 next
      obtain ⟨c, more, begins, digit⟩ := whole.exists_cons
      have alone : c = '0' → NoDigit (more ++ (fraction ++ (written ++ rest))) := by
        rintro rfl
        rw [begins] at lone
        cases lone rfl
        exact next
      rw [value?, ← readTail_parts places power stop]
      rw [begins, List.cons_append] at taken left ⊢
      rw [readNumber_eq digit alone, taken, left]

theorem exists_of_readNumber {negative : Bool} {input : List Char} {v : Number}
    (read : readNumber negative input = .ok (v, rest)) :
    ∃ n s, n.negative = negative ∧ Unsigned n s ∧ input = s ++ rest ∧ n.value? = some v := by
  cases input with
  | nil => cases read
  | cons c tail =>
      have digit : c.isDigit = true := by
        cases digit : c.isDigit with
        | true => rfl
        | false => simp [readNumber, digit, failAt] at read
      have lone : c = '0' → NoDigit tail := by
        rintro rfl d first
        cases more : d.isDigit with
        | false => rfl
        | true => simp [readNumber, first, more, failOn] at read
      rw [readNumber_eq digit lone] at read
      obtain ⟨places, fraction, exponent, written, pointed, spelled, split, value⟩ :=
        exists_of_readTail read
      let n : Numeral := ⟨negative, digitsOf (c :: tail), places, exponent⟩
      have first : n.whole = c :: digitsOf tail := List.takeWhile_cons_of_pos digit
      have whole : Digits n.whole := ⟨first ▸ List.cons_ne_nil _ _, isDigit_of_mem_digitsOf⟩
      refine ⟨n, _, rfl, .parts whole ?_ pointed spelled, ?_, value⟩
      · intro zero
        rw [first, List.head?_cons, Option.some.injEq] at zero
        have alone : digitsOf ([] ++ tail) = [] := takeWhile_digits nofun (lone zero)
        rw [first, zero, ← List.nil_append tail, alone]
      · rw [List.append_assoc, List.append_assoc, ← split, digitsOf_append_dropWhile]

end Numeral

end Json
end FeatureScan
