import FeatureScan.Binary64

/-!
Decimal forms of binary numbers. A number is written with the fewest digits that read
back as the same number, and of those with the nearest. It is read as a significand that
is scaled by powers of ten in floating point, so a text of many digits may be read as a
neighbour of the nearest number.
-/

namespace FeatureScan
namespace Binary64

/-- The greatest power of ten that is a number has this exponent. -/
def greatestTen : Nat := 308

/-- The absolute value times `10 ^ e`, one rounded step for each power of ten in range. -/
def scaleTen? : Nat → Binary64 → Int → Option Binary64
  | 0, _, _ => none
  | fuel + 1, x, e =>
      if e.natAbs ≤ greatestTen then do
        let ten ← ofNat? (Nat.pow 10 e.natAbs)
        if 0 ≤ e then x.mul? ten else x.div? ten
      else if x.isZero then some x
      else if 0 ≤ e then none
      else do
        let y ← x.div? (← ofNat? (Nat.pow 10 greatestTen))
        scaleTen? fuel y (e + greatestTen)

/-- The number that the decimal `significand · 10 ^ exponent` is read as. -/
def ofDecimal? (negative : Bool) (significand : Nat) (exponent : Int) : Option Binary64 := do
  let x ← scaleTen? (exponent.natAbs + 1) (← ofNat? significand) exponent
  some { x with negative }

/-- The number of decimal digits. -/
def digitCount (n : Nat) : Nat := (Nat.toDigits 10 n).length

/-- How often `num` can be multiplied by ten before it reaches `den`. -/
def tenfolds : Nat → Nat → Nat → Nat
  | 0, _, _ => 0
  | fuel + 1, num, den => if den ≤ num then 0 else tenfolds fuel (10 * num) den + 1

/-- The exponent `k` with `10 ^ (k - 1) ≤ num / den < 10 ^ k`, for a fraction that is not
zero. -/
def decimalPlace (num den : Nat) : Int :=
  if den ≤ num then digitCount (num / den) else 1 - tenfolds (den.log2 + 1) num den

/-- The reals that are rounded to a number, in quarters of its last binary place: the
lower end, the number and the upper end. -/
def quarters (x : Binary64) : Nat × Nat × Nat :=
  let m := 4 * x.significand
  let below := if x.significand = leastFull ∧ leastExponent < x.exponent then 1 else 2
  (m - below, m, m + 2)

/-- The best decimal of the given number of digits that is rounded to `x`: its digits as
a number, and the power of ten of the last one. -/
def decimalOf? (x : Binary64) (place : Int) (digits : Nat) : Option (Nat × Int) :=
  let unit := place - digits
  let (low, mid, high) := x.quarters
  -- Both sides are scaled so that a quarter of the last place and a unit are naturals.
  let e := x.exponent - 2
  let two := Nat.pow 2 e.natAbs
  let ten := Nat.pow 10 unit.natAbs
  let q := (if 0 ≤ e then two else 1) * (if 0 ≤ unit then 1 else ten)
  let u := (if 0 ≤ e then 1 else two) * (if 0 ≤ unit then ten else 1)
  let even := x.significand % 2 = 0
  let inside (c : Nat) : Bool :=
    if even then low * q ≤ c * u && c * u ≤ high * q else low * q < c * u && c * u < high * q
  let c := mid * q / u
  let d := mid * q % u
  match inside c, inside (c + 1) with
  | true, false => some (c, unit)
  | false, true => some (c + 1, unit)
  | true, true =>
      some (if 2 * d < u ∨ (2 * d = u ∧ c % 2 = 0) then c else c + 1, unit)
  | false, false => none

/-- Drops zeros at the end of the digits. -/
def dropZeros : Nat → Nat × Int → Nat × Int
  | 0, d => d
  | fuel + 1, (c, e) => if c ≠ 0 ∧ c % 10 = 0 then dropZeros fuel (c / 10, e + 1) else (c, e)

/-- The shortest decimal that is rounded to a number other than zero. -/
def shortest (x : Binary64) : Nat × Int :=
  let place := decimalPlace x.ratio.1 x.ratio.2
  match (List.range' 1 17).findSome? (x.decimalOf? place) with
  | some d => dropZeros 17 d
  | none => (0, 0)

/-- A number as text. A decimal exponent from -5 to 15 is written out in places, with at
least one digit after the point; any other is written with a sign after an `e`. -/
def toText (x : Binary64) : String :=
  let sign := if x.negative then "-" else ""
  if x.isZero then sign ++ "0.0"
  else
    let (c, unit) := x.shortest
    let digits := Nat.toDigits 10 c
    let n := digits.length
    let e := unit + n - 1
    let zeros (k : Nat) := List.replicate k '0'
    let body :=
      if e < -5 ∨ 15 < e then
        let point := if n = 1 then [] else '.' :: digits.drop 1
        digits.take 1 ++ point ++ ['e', if e < 0 then '-' else '+'] ++ Nat.toDigits 10 e.natAbs
      else if e < 0 then '0' :: '.' :: zeros (e.natAbs - 1) ++ digits
      else if n ≤ e.natAbs + 1 then digits ++ zeros (e.natAbs + 1 - n) ++ ['.', '0']
      else digits.take (e.natAbs + 1) ++ '.' :: digits.drop (e.natAbs + 1)
    sign ++ String.ofList body

end Binary64
end FeatureScan
