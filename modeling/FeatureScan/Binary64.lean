/-!
Finite binary floating-point numbers with a significand of 53 bits, as exact values.
Every operation is the rational result rounded to the nearest number, a tie going to the
even significand.
-/

namespace FeatureScan

/-- The value `± significand · 2 ^ exponent`. A number has the significand in the range
from `2 ^ 52` to `2 ^ 53`, or the least exponent. -/
structure Binary64 where
  negative : Bool
  significand : Nat
  exponent : Int
  deriving Repr, DecidableEq

namespace Binary64

/-- The least significand of 53 bits. -/
def leastFull : Nat := 0x10000000000000

def leastExponent : Int := -1074

def greatestExponent : Int := 971

def zero : Binary64 := ⟨false, 0, leastExponent⟩

def isZero (x : Binary64) : Bool := x.significand == 0

/-- The quotient of two naturals rounded to a natural, a half going to the even one. -/
def divHalfEven (num den : Nat) : Nat :=
  let q := num / den
  let twice := 2 * (num % den)
  if twice < den then q
  else if den < twice then q + 1
  else if q % 2 = 0 then q else q + 1

/-- The quotient of two naturals rounded to a natural, a half going up. -/
def divHalfUp (num den : Nat) : Nat := (2 * num + den) / (2 * den)

/-- `num / den · 2 ^ (-e)` as a fraction of naturals. -/
def scaled (num den : Nat) (e : Int) : Nat × Nat :=
  if e < 0 then (num * Nat.pow 2 e.natAbs, den) else (num, den * Nat.pow 2 e.natAbs)

/-- The exponent at which `num / den` has a significand of 53 bits, or the least one. -/
def exponentOf (num den : Nat) : Int :=
  let guess : Int := (num.log2 : Int) - den.log2 - 53
  let (n, d) := scaled num den guess
  max (if 2 * leastFull * d ≤ n then guess + 1 else guess) leastExponent

/-- The number nearest to `num / den`, if it is not too large. -/
def ofRatio? (num den : Nat) : Option Binary64 :=
  if num = 0 then
    some zero
  else
    let e := exponentOf num den
    let (n, d) := scaled num den e
    let m := divHalfEven n d
    let (m, e) := if m = 2 * leastFull then (leastFull, e + 1) else (m, e)
    if greatestExponent < e then none else some ⟨false, m, e⟩

def ratio (x : Binary64) : Nat × Nat :=
  if x.exponent < 0 then (x.significand, Nat.pow 2 x.exponent.natAbs)
  else (x.significand * Nat.pow 2 x.exponent.natAbs, 1)

def ofNat? (n : Nat) : Option Binary64 := ofRatio? n 1

def mul? (x y : Binary64) : Option Binary64 :=
  ofRatio? (x.ratio.1 * y.ratio.1) (x.ratio.2 * y.ratio.2)

def div? (x y : Binary64) : Option Binary64 :=
  ofRatio? (x.ratio.1 * y.ratio.2) (x.ratio.2 * y.ratio.1)

def round (x : Binary64) : Nat := divHalfUp x.ratio.1 x.ratio.2

end Binary64
end FeatureScan
