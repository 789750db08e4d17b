import FeatureScan.Calendar

/-!
Points of universal time and their texts. A leap second is told from the second before it
by a thousand million further nanoseconds, and is written as second 60.
-/

namespace FeatureScan

structure Instant where
  /-- Seconds since the beginning of 1970. -/
  seconds : Int
  nanos : Nat
  deriving Repr, DecidableEq

namespace Instant

def secondsPerDay : Int := 86400

def nanosPerSecond : Nat := 1000000000

def date (t : Instant) : Date := .ofDays (t.seconds / secondsPerDay)

def secondOfDay (t : Instant) : Nat := (t.seconds % secondsPerDay).toNat

def hour (t : Instant) : Nat := t.secondOfDay / 3600

def minute (t : Instant) : Nat := t.secondOfDay / 60 % 60

/-- The second of the minute, 60 for a leap second. -/
def second (t : Instant) : Nat := t.secondOfDay % 60 + t.nanos / nanosPerSecond

def fraction (t : Instant) : Nat := t.nanos % nanosPerSecond

/-- The years that a text may name. -/
def leastYear : Int := -262143

def greatestYear : Int := 262142

def toMillis (t : Instant) : Instant := { t with nanos := t.nanos / 1000000 * 1000000 }

def padded (width n : Nat) : List Char :=
  let digits := Nat.toDigits 10 n
  List.replicate (width - digits.length) '0' ++ digits

/-- Four digits, with a sign in front of a year that has none of four digits. -/
def yearText (y : Int) : List Char :=
  if 0 ≤ y ∧ y ≤ 9999 then padded 4 y.natAbs
  else (if y < 0 then '-' else '+') :: padded 4 y.natAbs

def dateText (d : Date) : List Char :=
  yearText d.year ++ '-' :: padded 2 d.month ++ '-' :: padded 2 d.day

def clockText (t : Instant) : List Char :=
  padded 2 t.hour ++ ':' :: padded 2 t.minute ++ ':' :: padded 2 t.second

/-- How many places of the second are written. -/
inductive Places where
  | millis
  /-- As many as needed, of none, three, six and nine. -/
  | asNeeded
  deriving Repr, DecidableEq

def fractionText (places : Places) (n : Nat) : List Char :=
  match places with
  | .millis => '.' :: padded 3 (n / 1000000)
  | .asNeeded =>
      if n = 0 then []
      else if n % 1000000 = 0 then '.' :: padded 3 (n / 1000000)
      else if n % 1000 = 0 then '.' :: padded 6 (n / 1000)
      else '.' :: padded 9 n

/-- The text in the internet profile of the date and time standard, with `Z` for
universal time. -/
def toText (places : Places) (t : Instant) : String :=
  String.ofList (dateText t.date ++ 'T' :: clockText t ++ fractionText places t.fraction ++ ['Z'])

def toMinuteText (t : Instant) : String :=
  String.ofList (dateText t.date ++ ' ' :: padded 2 t.hour ++ ':' :: padded 2 t.minute)

def toSecondText (t : Instant) : String :=
  String.ofList (dateText t.date ++ ' ' :: clockText t) ++ " UTC"

end Instant
end FeatureScan
